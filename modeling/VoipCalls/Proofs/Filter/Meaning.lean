import VoipCalls.Proofs.Filter.Language

/-!
# What a display filter says of a packet

A filter holds or fails of a packet, of which the values of the integer fields are known here.  A
comparison holds if the packet has the field and the operand is an integer to which it compares that
way, and the trees of the filter say the rest.

The integers are read from their decimal texts (`number?_toString`).
-/

namespace VoipCalls.DisplayFilter

/-! ## Integers -/

/-- The number that decimal digits stand for. -/
def digits? (cs : List Char) : Option ℕ :=
  if !cs.isEmpty && cs.all Char.isDigit then some (Nat.ofDigitChars 10 cs 0) else none

/-- The integer that a text stands for. -/
def number? (s : String) : Option Int :=
  match s.toList with
  | '-' :: cs => (digits? cs).map fun n : ℕ => -(n : Int)
  | cs => (digits? cs).map fun n : ℕ => (n : Int)

/-- The decimal digits of a number stand for it. -/
lemma digits?_toDigits (n : ℕ) : digits? (Nat.toDigits 10 n) = some n := by
  have hne : (Nat.toDigits 10 n).isEmpty = false :=
    List.isEmpty_eq_false_iff.mpr Nat.toDigits_ne_nil
  have hdigits : (Nat.toDigits 10 n).all Char.isDigit = true :=
    List.all_eq_true.mpr fun c hc =>
      Nat.isDigit_of_mem_toDigits (by decide) (Nat.le_refl 10) hc
  rw [digits?, hne, hdigits, Nat.ofDigitChars_ten_toDigits]
  rfl

lemma toList_toString_of_nonneg {n : Int} (hn : 0 ≤ n) :
    (toString n).toList = Nat.toDigits 10 n.toNat := by
  rw [Int.toString_eq_repr, Int.repr_eq_if, if_pos hn, Nat.toList_repr]

lemma toList_toString_of_neg {n : Int} (hn : ¬ 0 ≤ n) :
    (toString n).toList = '-' :: Nat.toDigits 10 (-n).toNat := by
  rw [Int.toString_eq_repr, Int.repr_eq_if, if_neg hn, String.toList_append, Nat.toList_repr]
  rfl

/-- An integer is read back from its text. -/
lemma number?_toString (n : Int) : number? (toString n) = some n := by
  by_cases hn : 0 ≤ n
  · have hsign : ∀ cs, Nat.toDigits 10 n.toNat ≠ '-' :: cs := by
      intro cs hcs
      have hdigit := Nat.isDigit_of_mem_toDigits (by decide) (Nat.le_refl 10)
        (hcs ▸ List.mem_cons_self : '-' ∈ Nat.toDigits 10 n.toNat)
      exact absurd hdigit (by decide)
    rw [number?, toList_toString_of_nonneg hn]
    split
    · rename_i cs hcs
      exact absurd hcs (hsign cs)
    · rw [digits?_toDigits, Option.map_some, Int.toNat_of_nonneg hn]
  · rw [number?, toList_toString_of_neg hn]
    simp only [digits?_toDigits, Option.map_some]
    congr 1
    omega

/-- Digits are characters of a word. -/
lemma isBare_of_mem_toDigits {n : ℕ} {c : Char} (hc : c ∈ Nat.toDigits 10 n) :
    isBare c = true := by
  have hdigit := Nat.isDigit_of_mem_toDigits (by decide) (Nat.le_refl 10) hc
  have hne : ∀ d : Char, d.isDigit = false → (c != d) = true := by
    rintro d hd
    rw [bne_iff_ne]
    rintro rfl
    rw [hd] at hdigit
    cases hdigit
  simp only [isBare, Bool.and_eq_true]
  exact ⟨⟨⟨hne ' ' rfl, hne '(' rfl⟩, hne ')' rfl⟩, hne '"' rfl⟩

/-- The text of an integer is a word. -/
lemma isWord_toString (n : Int) : isWord (toString n) = true := by
  have hword : ∀ s : String, s.toList ≠ [] → (∀ c ∈ s.toList, isBare c = true) →
      isWord s = true := by
    intro s hne hbare
    have hs : s.isEmpty = false := by
      rw [Bool.eq_false_iff, ne_eq, String.isEmpty_iff]
      rintro rfl
      exact hne rfl
    rw [isWord, hs, List.all_eq_true.mpr hbare]
    rfl
  by_cases hn : 0 ≤ n
  · refine hword _ ?_ ?_ <;> rw [toList_toString_of_nonneg hn]
    · exact Nat.toDigits_ne_nil
    · exact fun c hc => isBare_of_mem_toDigits hc
  · refine hword _ ?_ ?_ <;> rw [toList_toString_of_neg hn]
    · exact List.cons_ne_nil _ _
    · intro c hc
      rcases List.mem_cons.mp hc with rfl | hc
      · rfl
      · exact isBare_of_mem_toDigits hc

/-- The integer that an operand stands for. -/
def Operand.number? : Operand → Option Int
  | .word s => DisplayFilter.number? s
  | .literal _ => none

lemma Operand.number?_toString (n : Int) : (word (toString n)).number? = some n :=
  DisplayFilter.number?_toString n

/-! ## Packets -/

variable (fields : String → Option Int)

/-- Whether a comparison holds of a packet with these fields. -/
def Test.holds (t : Test) : Bool :=
  match fields t.field, t.operand.number? with
  | some m, some n => t.comparison.holds m n
  | _, _ => false

mutual

/-- Whether a filter holds of a packet with these fields. -/
def Factor.holds : Factor → Bool
  | .test t => t.holds fields
  | .group f => f.holds

def Conjunction.holds : Conjunction → Bool
  | .single x => x.holds
  | .both c x => c.holds && x.holds

def Disjunction.holds : Disjunction → Bool
  | .single c => c.holds
  | .either f c => f.holds || c.holds

end

/-! ## Comparisons with integers -/

/-- The comparison of a field with an integer, or with what is written for one. -/
def Factor.compare (field : String) (c : Comparison) (operand : String) : Factor :=
  .test ⟨field, c, .word operand⟩

lemma isReadable_compare {field operand : String} (c : Comparison) (hfield : isWord field = true)
    (hoperand : isWord operand = true) : (Factor.compare field c operand).IsReadable := by
  rw [Factor.compare, Factor.IsReadable]
  exact ⟨hfield, hoperand⟩

variable {fields}

/-- A comparison with an integer holds of a packet that has the field. -/
lemma holds_compare {field : String} {m : Int} (hm : fields field = some m) (c : Comparison)
    (n : Int) :
    (Factor.compare field c (toString n)).holds fields = c.holds m n := by
  rw [Factor.compare, Factor.holds, Test.holds, hm, Operand.number?_toString]

end VoipCalls.DisplayFilter
