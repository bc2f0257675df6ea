import VoipCalls.Number.Double

/-!
# Fixed-point text

`Double.fixed places x` writes a double with a fixed number of decimal places.  The value is
rounded once, from its exact binary value, and a half goes to the even neighbour; the sign of a
negative zero is kept.
-/

namespace VoipCalls

/-- The text of `n / 10 ^ places` with that many decimal places. -/
def fixedDigits (places n : Nat) : String :=
  if places = 0 then toString n
  else
    let fraction := toString (n % Number.tenTo places)
    toString (n / Number.tenTo places) ++ "." ++
      String.ofList (List.replicate (places - fraction.length) '0') ++ fraction

/-- The text of a double with a fixed number of decimal places. -/
def Double.fixed (places : Nat) (x : Double) : String :=
  if x.isNaN then "nan"
  else
    (if x.isNegative then "-" else "") ++
      (if x.isInfinite then "inf"
        else
          let (n, d) := x.ratio
          fixedDigits places (Number.roundDiv (n * Number.tenTo places) d))

end VoipCalls
