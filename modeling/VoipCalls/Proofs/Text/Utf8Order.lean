import Mathlib.Data.Nat.Init
import Mathlib.Tactic.Lemma
import Mathlib.Tactic.SplitIfs
import VoipCalls.Text.Utf8

/-!
# The order of texts in UTF-8

The bytes of a text are ordered like its code points (`Utf8.compare_encode`).  Characters that are
written with different numbers of bytes differ in their first bytes, and a greater character has the
greater first byte; those with the same number of bytes hold their code points in digits of base 64.
So the first character in which two texts differ decides between their bytes too.
-/

namespace VoipCalls.Text.Utf8

/-- The bytes of a character, from its code point. -/
def octetsOf (n : ℕ) : List ℕ :=
  if n ≤ 0x7F then [n]
  else if n ≤ 0x7FF then [0xC0 + n / 64, 0x80 + n % 64]
  else if n ≤ 0xFFFF then [0xE0 + n / 4096, 0x80 + n / 64 % 64, 0x80 + n % 64]
  else [0xF0 + n / 262144, 0x80 + n / 4096 % 64, 0x80 + n / 64 % 64, 0x80 + n % 64]

/-- Code points end below 0x110000. -/
lemma toNat_lt (c : Char) : c.toNat < 0x110000 := by
  have hvalid := c.valid
  unfold UInt32.isValidChar Nat.isValidChar at hvalid
  unfold Char.toNat
  omega

/-- A character is written with the bytes of its code point. -/
lemma map_toNat_utf8EncodeChar (c : Char) :
    (String.utf8EncodeChar c).map UInt8.toNat = octetsOf c.toNat := by
  have hc := toNat_lt c
  simp only [String.utf8EncodeChar, Char.toNat_val]
  generalize c.toNat = n at hc ⊢
  unfold octetsOf
  split_ifs <;>
    simp only [List.map_cons, List.map_nil, UInt8.toNat_ofNat', List.cons.injEq, and_true] <;>
    omega

/-- Some byte is written of every character. -/
lemma octetsOf_ne_nil (n : ℕ) : octetsOf n ≠ [] := by
  unfold octetsOf
  split_ifs <;> exact List.cons_ne_nil _ _

/-- A smaller character is written with smaller bytes, whatever stands behind them. -/
lemma compare_octetsOf_append {m n : ℕ} (hmn : m < n) (hn : n < 0x110000) (as bs : List ℕ) :
    compare (octetsOf m ++ as) (octetsOf n ++ bs) = .lt := by
  unfold octetsOf
  -- the first byte is already smaller if there are fewer bytes; else the digits are compared
  split_ifs <;>
    simp only [List.cons_append, List.nil_append, List.compare_cons_cons, Ordering.then_eq_lt,
      Nat.compare_eq_lt, Nat.compare_eq_eq] <;>
    omega

/-- What stands at the beginning of both lists decides nothing. -/
lemma compare_append_left (front as bs : List ℕ) :
    compare (front ++ as) (front ++ bs) = compare as bs := by
  induction front with
  | nil => rfl
  | cons a front ih =>
    rw [List.cons_append, List.cons_append, List.compare_cons_cons, Nat.compare_eq_eq.mpr rfl, ih]
    rfl

/-- The bytes of a text, one character after the other. -/
lemma map_toNat_encode_cons (c : Char) (cs : List Char) :
    (encode (c :: cs)).map UInt8.toNat = octetsOf c.toNat ++ (encode cs).map UInt8.toNat := by
  rw [encode, List.flatMap_cons, List.map_append, map_toNat_utf8EncodeChar]
  rfl

/-- A text that is not empty has a first byte. -/
lemma exists_map_toNat_encode_eq_cons (c : Char) (cs : List Char) :
    ∃ b bs, (encode (c :: cs)).map UInt8.toNat = b :: bs := by
  rw [map_toNat_encode_cons]
  obtain ⟨b, bs, hbytes⟩ := List.exists_cons_of_ne_nil (octetsOf_ne_nil c.toNat)
  exact ⟨b, bs ++ (encode cs).map UInt8.toNat, by rw [hbytes, List.cons_append]⟩

/-- The bytes of texts are ordered like their code points. -/
lemma compare_encode (cs ds : List Char) :
    compare ((encode cs).map UInt8.toNat) ((encode ds).map UInt8.toNat) =
      compare (cs.map Char.toNat) (ds.map Char.toNat) := by
  induction cs generalizing ds with
  | nil =>
    cases ds with
    | nil => rfl
    | cons d ds =>
      obtain ⟨b, bs, hbytes⟩ := exists_map_toNat_encode_eq_cons d ds
      rw [hbytes]
      rfl
  | cons c cs ih =>
    cases ds with
    | nil =>
      obtain ⟨b, bs, hbytes⟩ := exists_map_toNat_encode_eq_cons c cs
      rw [hbytes]
      rfl
    | cons d ds =>
      rw [map_toNat_encode_cons, map_toNat_encode_cons, List.map_cons, List.map_cons,
        List.compare_cons_cons]
      rcases Nat.lt_trichotomy c.toNat d.toNat with hlt | heq | hgt
      · rw [compare_octetsOf_append hlt (toNat_lt d), Nat.compare_eq_lt.mpr hlt]
        rfl
      · rw [heq, compare_append_left, ih, Nat.compare_eq_eq.mpr rfl]
        rfl
      · rw [Std.OrientedCmp.gt_of_lt (compare_octetsOf_append hgt (toNat_lt c) _ _),
          Nat.compare_eq_gt.mpr hgt]
        rfl

/-- There are as many bytes as a text has in UTF-8. -/
lemma length_encode (s : String) : (encode s.toList).length = s.utf8ByteSize := by
  rw [String.utf8ByteSize, ← String.utf8Encode_toList, List.utf8Encode, List.size_toByteArray]
  rfl

end VoipCalls.Text.Utf8
