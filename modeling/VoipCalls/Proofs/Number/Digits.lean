import Mathlib.Data.Nat.Init
import Mathlib.Tactic.Lemma
import VoipCalls.Text.Digit

/-!
# Digits that are read back

A number is written in a base with `Nat.toDigits`, highest digit first and without needless zeros.
A reader that knows every digit of the base reads the number back, digit by digit
(`exists_digits`).  The two readers for ASCII do, `asciiDigit?` in base ten and `hexDigit?` in base
sixteen, and they read nothing in which a character is no digit (`mapM_eq_none`).

Digits of one number are ordered like the numbers that they denote, if there are as many of them
(`compare_ofDigits`).
-/

namespace VoipCalls.Text

/-! ## Reading character by character -/

/-- Nothing is read if one item is not. -/
lemma mapM_eq_none {α β : Type} {f : α → Option β} {xs : List α} {x : α} (hx : x ∈ xs)
    (hf : f x = none) : xs.mapM f = none := by
  induction xs with
  | nil => exact absurd hx List.not_mem_nil
  | cons y ys ih =>
    rw [List.mapM_cons]
    rcases List.mem_cons.mp hx with rfl | hys
    · rw [hf]
      rfl
    · rw [ih hys]
      cases f y <;> rfl

/-- If all items are read, each of them is. -/
lemma isSome_of_mapM {α β : Type} {f : α → Option β} {xs : List α} {ys : List β}
    (h : xs.mapM f = some ys) : ∀ x ∈ xs, (f x).isSome = true := by
  intro x hx
  rw [Option.isSome_iff_ne_none]
  intro hf
  rw [mapM_eq_none hx hf] at h
  cases h

/-! ## Digits -/

variable {base : ℕ} {digit? : Char → Option ℕ}

/-- A digit behind others counts once, and they count the base. -/
lemma ofDigits_concat (base : ℕ) (ds : List ℕ) (d : ℕ) :
    ofDigits base (ds ++ [d]) = ofDigits base ds * base + d := by
  rw [ofDigits, List.foldl_append]
  rfl

/-- The digits of a number are read back: they denote it, there are as many, and the first is no
zero unless the number is. -/
lemma exists_digits (hbase : 1 < base) (hdigit : ∀ d < base, digit? (Nat.digitChar d) = some d)
    (n : ℕ) :
    ∃ ds, (Nat.toDigits base n).mapM digit? = some ds ∧ ofDigits base ds = n ∧
      ds.length = (Nat.toDigits base n).length ∧ (0 < n → ds.head? ≠ some 0) := by
  have hpositive : 0 < base := Nat.lt_of_succ_lt hbase
  induction n using Nat.strong_induction_on with
  | _ n ih =>
    by_cases hn : n < base
    case pos =>
      rw [Nat.toDigits_of_lt_base hn]
      refine ⟨[n], ?_, ?_, rfl, fun hpos => ?_⟩
      · simp [hdigit n hn]
      · simp [ofDigits]
      · simpa using Nat.pos_iff_ne_zero.mp hpos
    case neg =>
      have hle : base ≤ n := Nat.le_of_not_lt hn
      have hlast : n % base < base := Nat.mod_lt n hpositive
      obtain ⟨ds, hds, hvalue, hlength, hhead⟩ :=
        ih (n / base) (Nat.div_lt_self (Nat.lt_of_lt_of_le hpositive hle) hbase)
      rw [Nat.toDigits_of_base_le hbase hle]
      refine ⟨ds ++ [n % base], ?_, ?_, ?_, fun _ => ?_⟩
      · simp [List.mapM_append, hds, hdigit _ hlast]
      · rw [ofDigits_concat, hvalue, Nat.div_add_mod']
      · simp [hlength]
      · cases ds with
        | nil =>
          have hsome : 0 < (Nat.toDigits base (n / base)).length := Nat.length_toDigits_pos
          rw [← hlength] at hsome
          cases hsome
        | cons d ds => exact hhead (Nat.div_pos hle hpositive)

/-- The digits in base ten are read. -/
lemma asciiDigit?_digitChar : ∀ d < 10, asciiDigit? (Nat.digitChar d) = some d := by
  decide

/-- The digits in base sixteen are read. -/
lemma hexDigit?_digitChar : ∀ d < 16, hexDigit? (Nat.digitChar d) = some d := by
  decide

/-- A digit in base ten is one in base sixteen. -/
lemma isSome_hexDigit?_of_ascii {c : Char} (h : (asciiDigit? c).isSome = true) :
    (hexDigit? c).isSome = true := by
  unfold asciiDigit? at h
  unfold hexDigit?
  split at h
  · rename_i hrange
    rw [if_pos hrange]
    exact h
  · cases h

/-- No digit is blank. -/
lemma isBlank_of_hexDigit? {c : Char} (h : (hexDigit? c).isSome = true) : isBlank c = false := by
  have hle : ∀ a b : Char, a ≤ b ↔ a.toNat ≤ b.toNat := fun a b => UInt32.le_iff_toNat_le
  have hrange : 48 ≤ c.toNat ∧ c.toNat ≤ 57 ∨ 97 ≤ c.toNat ∧ c.toNat ≤ 102 ∨
      65 ≤ c.toNat ∧ c.toNat ≤ 70 := by
    unfold hexDigit? at h
    simp only [hle] at h
    split at h
    · exact Or.inl ‹_›
    split at h
    · exact Or.inr (Or.inl ‹_›)
    split at h
    · exact Or.inr (Or.inr ‹_›)
    · cases h
  simp only [isBlank, Bool.or_eq_false_iff, Bool.and_eq_false_iff, decide_eq_false_iff_not,
    beq_eq_false_iff_ne]
  omega

/-- What a number is written with in base sixteen are digits. -/
lemma isSome_hexDigit? (n : ℕ) : ∀ c ∈ Nat.toDigits 16 n, (hexDigit? c).isSome = true := by
  obtain ⟨ds, hds, -⟩ := exists_digits (by decide) hexDigit?_digitChar n
  exact isSome_of_mapM hds

/-! ## Order -/

/-- The last digits decide only between numbers that are the same in front of them. -/
lemma compare_mul_add {d e : ℕ} (hd : d < base) (he : e < base) (n m : ℕ) :
    compare (n * base + d) (m * base + e) = (compare n m).then (compare d e) := by
  have hless : ∀ {n m d e : ℕ}, n < m → d < base → n * base + d < m * base + e := by
    intro n m d e hnm hd
    have hle : (n + 1) * base ≤ m * base := Nat.mul_le_mul_right base hnm
    rw [Nat.add_one_mul] at hle
    omega
  rcases Nat.lt_trichotomy n m with hlt | rfl | hgt
  · rw [Nat.compare_eq_lt.mpr hlt, Nat.compare_eq_lt.mpr (hless hlt hd)]
    rfl
  · rw [Nat.compare_eq_eq.mpr rfl, Ordering.eq_then]
    rcases Nat.lt_trichotomy d e with hlt | rfl | hgt
    · rw [Nat.compare_eq_lt.mpr hlt, Nat.compare_eq_lt.mpr (by omega)]
    · rw [Nat.compare_eq_eq.mpr rfl, Nat.compare_eq_eq.mpr rfl]
    · rw [Nat.compare_eq_gt.mpr hgt, Nat.compare_eq_gt.mpr (by omega)]
  · rw [Nat.compare_eq_gt.mpr hgt, Nat.compare_eq_gt.mpr (hless hgt he)]
    rfl

/-- As many digits of two numbers are ordered like the numbers, behind whatever stands in front. -/
lemma compare_foldl_digits {ds es : List ℕ} (hlength : ds.length = es.length)
    (hds : ∀ d ∈ ds, d < base) (hes : ∀ e ∈ es, e < base) (n m : ℕ) :
    compare (ds.foldl (fun n d => n * base + d) n) (es.foldl (fun n d => n * base + d) m) =
      (compare n m).then (compare ds es) := by
  induction ds generalizing es n m with
  | nil =>
    rw [List.length_nil, eq_comm, List.length_eq_zero_iff] at hlength
    subst hlength
    exact Ordering.then_eq.symm
  | cons d ds ih =>
    cases es with
    | nil => cases hlength
    | cons e es =>
      rw [List.forall_mem_cons] at hds hes
      rw [List.foldl_cons, List.foldl_cons, ih (Nat.succ.inj hlength) hds.2 hes.2,
        compare_mul_add hds.1 hes.1, List.compare_cons_cons, Ordering.then_assoc]

/-- As many digits of two numbers are ordered like the numbers. -/
lemma compare_ofDigits {ds es : List ℕ} (hlength : ds.length = es.length)
    (hds : ∀ d ∈ ds, d < base) (hes : ∀ e ∈ es, e < base) :
    compare (ofDigits base ds) (ofDigits base es) = compare ds es :=
  compare_foldl_digits hlength hds hes 0 0

end VoipCalls.Text
