import VoipCalls.Proofs.Number.Range

/-!
# Finite doubles

The difference of two finite doubles may be too large to be finite, but it is a number
(`Double.isNaN_sub`).
-/

namespace VoipCalls

namespace Double

variable {x y : Double}

/-- No magnitude up to infinity is that of a NaN. -/
lemma isNaN_ofMagnitude (negative : Bool) {m : ℕ} (hm : m ≤ infiniteMagnitude) :
    (ofMagnitude negative m).isNaN = false := by
  rw [isNaN, magnitude_ofMagnitude negative hm]
  exact decide_eq_false (Nat.not_lt.mpr hm)

/-- What is rounded from a quotient is a number. -/
lemma isNaN_nearest (negative : Bool) (n d : ℕ) : (nearest negative n d).isNaN = false :=
  isNaN_ofMagnitude negative (nearestMagnitude_le n d)

lemma isNaN_of_isFinite (h : x.isFinite = true) : x.isNaN = false := by
  have hlt : x.magnitude < infiniteMagnitude := of_decide_eq_true h
  exact decide_eq_false (by omega)

lemma isInfinite_of_isFinite (h : x.isFinite = true) : x.isInfinite = false := by
  have hlt : x.magnitude < infiniteMagnitude := of_decide_eq_true h
  rw [isInfinite, beq_eq_false_iff_ne]
  omega

/-- The difference of two finite doubles is a number. -/
theorem isNaN_sub (hx : x.isFinite = true) (hy : y.isFinite = true) :
    (x.sub y).isNaN = false := by
  unfold sub
  rw [isNaN_of_isFinite hx, isNaN_of_isFinite hy, isInfinite_of_isFinite hx,
    isInfinite_of_isFinite hy]
  dsimp only
  rw [Bool.or_self, if_neg Bool.false_ne_true, if_neg Bool.false_ne_true,
    if_neg Bool.false_ne_true]
  split_ifs
  · exact isNaN_ofMagnitude _ (Nat.zero_le _)
  · exact isNaN_nearest _ _ _
  · exact isNaN_nearest _ _ _

end Double

end VoipCalls
