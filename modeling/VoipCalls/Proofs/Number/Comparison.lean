import Mathlib.Tactic.Lemma
import VoipCalls.Number.Double

/-!
# The comparison of doubles

Among the doubles that are numbers, `Double.le` is a total preorder and `Double.lt` its strict part;
the two zeros are the only different doubles that are as large as each other.  A NaN stands in no
relation to anything, so that each law asks for numbers, or is given a relation that only numbers
have.
-/

namespace VoipCalls

namespace Double

variable {x y z : Double}

/-- Two doubles are in order if both are numbers and their places are. -/
lemma le_iff : x.le y = true ↔ x.isNaN = false ∧ y.isNaN = false ∧ x.rank ≤ y.rank := by
  simp [le, and_assoc]

/-- Two doubles are in strict order if both are numbers and their places are. -/
lemma lt_iff : x.lt y = true ↔ x.isNaN = false ∧ y.isNaN = false ∧ x.rank < y.rank := by
  simp [lt, and_assoc]

/-- A number is as large as itself. -/
lemma le_self (hx : x.isNaN = false) : x.le x = true :=
  le_iff.mpr ⟨hx, hx, Int.le_refl _⟩

lemma le_trans (hxy : x.le y = true) (hyz : y.le z = true) : x.le z = true := by
  obtain ⟨hx, -, hxy⟩ := le_iff.mp hxy
  obtain ⟨-, hz, hyz⟩ := le_iff.mp hyz
  exact le_iff.mpr ⟨hx, hz, Int.le_trans hxy hyz⟩

lemma le_of_lt (h : x.lt y = true) : x.le y = true := by
  obtain ⟨hx, hy, hlt⟩ := lt_iff.mp h
  exact le_iff.mpr ⟨hx, hy, Int.le_of_lt hlt⟩

/-- Of two numbers that are not in order, the second is smaller. -/
lemma lt_of_le_eq_false (hx : x.isNaN = false) (hy : y.isNaN = false) (h : x.le y = false) :
    y.lt x = true := by
  refine lt_iff.mpr ⟨hy, hx, ?_⟩
  have hnot : ¬ x.rank ≤ y.rank := by simpa [le, hx, hy] using h
  exact Int.not_le.mp hnot

end Double

end VoipCalls
