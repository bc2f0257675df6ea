/-!
# Rounding a quotient

`roundDiv n d` is the whole number nearest to `n / d`; a half goes to the even neighbour.
-/

namespace VoipCalls.Number

/-- The whole number nearest to a quotient, a half going to the even neighbour. -/
def roundDiv (n d : Nat) : Nat :=
  let q := n / d
  let r := n % d
  if 2 * r < d then q
  else if d < 2 * r then q + 1
  else if q % 2 = 0 then q else q + 1

@[simp] theorem roundDiv_one (n : Nat) : roundDiv n 1 = n := by
  simp [roundDiv, Nat.mod_one]

end VoipCalls.Number
