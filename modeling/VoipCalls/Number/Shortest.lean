import VoipCalls.Number.Double

/-!
# The shortest decimal of a double

`Double.shortest` writes the fewest decimal digits that read back as the same double, and of two
such decimals the nearer one, or the even one of two equally near.  For each number of digits only
the two neighbours of the value on that decimal grid can read back if any can, and seventeen digits
always suffice.
-/

namespace VoipCalls.Double

/-- The number of decimal digits of a number; none for zero. -/
def decimalSize (n : Nat) : Nat :=
  if n = 0 then 0 else (toString n).length

/-- The largest exponent of ten whose power is at most a positive quotient. -/
def floorLogTen (n d : Nat) : Int :=
  if d ≤ n then (decimalSize (n / d) : Int) - 1
  else -(decimalSize ((d + n - 1) / n - 1) : Int)

/-- A quotient in units of a power of ten, as a quotient. -/
def inUnits (n d : Nat) (e : Int) : Nat × Nat :=
  if e < 0 then (n * Number.tenTo e.natAbs, d) else (n, d * Number.tenTo e.natAbs)

/-- The nearest of the neighbours of `|x|` among the multiples of `10 ^ e` that read back as
`|x|`. -/
def gridPoint? (x : Double) (e : Int) : Option Nat :=
  let (n, d) := x.ratio
  let (n', d') := inUnits n d e
  let low := n' / d'
  let back (c : Nat) : Bool := (ofDecimal false c e).magnitude == x.magnitude
  match back low, back (low + 1) with
  | true, true => some (Number.roundDiv n' d')
  | true, false => some low
  | false, true => some (low + 1)
  | false, false => none

/-- The digits of the shortest decimal of a positive finite double and the exponent of its last
digit, trying grids from the one with `digits` digits on. -/
def shortestFrom (x : Double) (top : Int) : Nat → Nat → Nat × Int
  | 0, digits => ((gridPoint? x (top - digits)).getD 0, top - digits)
  | more + 1, digits =>
    match gridPoint? x (top - digits) with
    | some c => (c, top - digits)
    | none => shortestFrom x top more (digits + 1)

/-- Drop the zeros at the end of a number's digits. -/
def dropZeros (cs : List Char) : List Char :=
  (cs.reverse.dropWhile (· == '0')).reverse

/-- Write digits `0.d₁d₂…` times `10 ^ point`: positionally where the first digit's exponent lies
from `-4` to `15`, with an exponent of at least two digits elsewhere. -/
def layout (ds : List Char) (point : Int) : List Char :=
  if -4 < point ∧ point ≤ 16 then
    if point ≤ 0 then "0.".toList ++ List.replicate point.natAbs '0' ++ ds
    else
      let whole := ds.take point.natAbs
      let rest := ds.drop point.natAbs
      whole ++ List.replicate (point.natAbs - whole.length) '0' ++ '.' ::
        (if rest.isEmpty then ['0'] else rest)
  else
    let e := point - 1
    let digits := (toString e.natAbs).toList
    ds.take 1 ++ (if ds.length ≤ 1 then [] else '.' :: ds.drop 1) ++ 'e' ::
      (if e < 0 then '-' else '+') :: List.replicate (2 - digits.length) '0' ++ digits

/-- The shortest decimal text of a double. -/
def shortest (x : Double) : String :=
  if x.isNaN then "nan"
  else
    (if x.isNegative then "-" else "") ++
      (if x.isInfinite then "inf"
        else if x.magnitude = 0 then "0.0"
        else
          let (n, d) := x.ratio
          let (c, e) := shortestFrom x (floorLogTen n d) 16 0
          let ds := (toString c).toList
          String.ofList (layout (dropZeros ds) (ds.length + e)))

end VoipCalls.Double
