import VoipCalls.Number.Power
import VoipCalls.Number.Rounding

/-!
# Doubles

A `Double` is the 64 bits of a binary floating-point number.  Everything about it is computed from
the bits in whole-number arithmetic, so that each fact about it is a fact about natural numbers:

* the *magnitude* is the number without its sign bit.  Magnitudes grow with the absolute value, so
  comparing two doubles is comparing their signed magnitudes (`rank`), once neither is a NaN;
* a finite double is `± significand · 2 ^ scale`;
* `nearest` rounds a quotient of whole numbers to the nearest double, ties to the even one, and
  conversion, arithmetic and the reading of decimals are all that one rounding of an exact value.
-/

namespace VoipCalls

/-- A binary floating-point number, as its 64 bits. -/
structure Double where
  bits : UInt64
deriving DecidableEq, Repr

namespace Double

open Number (twoTo tenTo)

/-- The weight of the sign bit. -/
def signWeight : Nat := twoTo 63

/-- The weight of the lowest bit of the exponent: so many magnitudes share an exponent. -/
def binade : Nat := twoTo 52

/-- The magnitude of infinity; larger magnitudes are NaNs. -/
def infiniteMagnitude : Nat := 2047 * binade

/-- Whether the sign bit is set. -/
def isNegative (x : Double) : Bool :=
  signWeight ≤ x.bits.toNat

/-- The bits without the sign. -/
def magnitude (x : Double) : Nat :=
  x.bits.toNat % signWeight

/-- Whether the double is not a number. -/
def isNaN (x : Double) : Bool :=
  infiniteMagnitude < x.magnitude

/-- Whether the double is one of the two infinities. -/
def isInfinite (x : Double) : Bool :=
  x.magnitude == infiniteMagnitude

/-- Whether the double is a number other than the infinities. -/
def isFinite (x : Double) : Bool :=
  x.magnitude < infiniteMagnitude

/-- The place of a number among the numbers; both zeros have the place zero. -/
def rank (x : Double) : Int :=
  if x.isNegative then -(x.magnitude : Int) else x.magnitude

/-- Comparison of doubles; a NaN stands in no relation to anything. -/
def le (x y : Double) : Bool :=
  !x.isNaN && !y.isNaN && decide (x.rank ≤ y.rank)

/-- Strict comparison of doubles; a NaN stands in no relation to anything. -/
def lt (x y : Double) : Bool :=
  !x.isNaN && !y.isNaN && decide (x.rank < y.rank)

/-- The order of two doubles, with everything unrelated counted as equal. -/
def order (x y : Double) : Ordering :=
  if x.lt y then .lt else if y.lt x then .gt else .eq

/-- The whole-number factor of a finite double. -/
def significand (x : Double) : Nat :=
  if x.magnitude / binade = 0 then x.magnitude else x.magnitude % binade + binade

/-- The exponent of two of a finite double. -/
def scale (x : Double) : Int :=
  if x.magnitude / binade = 0 then -1074 else (x.magnitude / binade : Nat) - 1075

/-- The absolute value of a finite double as a quotient. -/
def ratio (x : Double) : Nat × Nat :=
  if x.scale < 0 then (x.significand, twoTo x.scale.natAbs)
  else (x.significand * twoTo x.scale.natAbs, 1)

/-- The double with a given sign and magnitude. -/
def ofMagnitude (negative : Bool) (m : Nat) : Double :=
  ⟨UInt64.ofNat ((if negative then signWeight else 0) + m)⟩

/-- The NaN that stands for all of them in answers. -/
def nan : Double := ofMagnitude false (infiniteMagnitude + binade / 2)

/-- The infinity of a sign. -/
def infinity (negative : Bool) : Double := ofMagnitude negative infiniteMagnitude

/-- Zero without a sign. -/
def zero : Double := ⟨0⟩

/-- The largest exponent of two whose power is at most a positive quotient. -/
def floorLog (n d : Nat) : Int :=
  let e : Int := (n.log2 : Int) - d.log2
  if (if 0 ≤ e then d * twoTo e.natAbs ≤ n else d ≤ n * twoTo e.natAbs) then e else e - 1

/-- The magnitude of the double nearest to a quotient. -/
def nearestMagnitude (n d : Nat) : Nat :=
  if n = 0 then 0
  else
    let s := max (floorLog n d - 52) (-1074)
    let m :=
      if 0 ≤ s then Number.roundDiv n (d * twoTo s.natAbs)
      else Number.roundDiv (n * twoTo s.natAbs) d
    min ((s + 1074).natAbs * binade + m) infiniteMagnitude

/-- The double nearest to a signed quotient, ties to even; infinity beyond the largest double. -/
def nearest (negative : Bool) (n d : Nat) : Double :=
  ofMagnitude negative (nearestMagnitude n d)

/-- The double nearest to `± n · 10 ^ e`. -/
def ofDecimal (negative : Bool) (n : Nat) (e : Int) : Double :=
  if e < 0 then nearest negative n (tenTo e.natAbs) else nearest negative (n * tenTo e.natAbs) 1

/-- The double nearest to an integer; nothing when that would be an infinity. -/
def ofInt? (n : Int) : Option Double :=
  let x := nearest (n < 0) n.natAbs 1
  if x.isFinite then some x else none

/-- The signed significand of a finite double in units of a smaller power of two. -/
def unitsOf (x : Double) (s : Int) : Int :=
  let u : Int := (x.significand * twoTo (x.scale - s).natAbs : Nat)
  if x.isNegative then -u else u

/-- The difference of two doubles, rounded once. -/
def sub (x y : Double) : Double :=
  if x.isNaN || y.isNaN then nan
  else if x.isInfinite then
    if y.isInfinite && x.isNegative == y.isNegative then nan else x
  else if y.isInfinite then infinity (!y.isNegative)
  else
    let s := min x.scale y.scale
    let v := x.unitsOf s - y.unitsOf s
    if v = 0 then ofMagnitude (x.magnitude == 0 && x.isNegative && !y.isNegative) 0
    else if s < 0 then nearest (v < 0) v.natAbs (twoTo s.natAbs)
    else nearest (v < 0) (v.natAbs * twoTo s.natAbs) 1

/-- The double of the opposite sign. -/
def neg (x : Double) : Double :=
  ofMagnitude (!x.isNegative) x.magnitude

/-- The sum of two doubles, rounded once. -/
def add (x y : Double) : Double :=
  x.sub y.neg

/-- The product of two doubles, rounded once. -/
def mul (x y : Double) : Double :=
  let negative := x.isNegative != y.isNegative
  if x.isNaN || y.isNaN then nan
  else if x.isInfinite || y.isInfinite then
    if x.magnitude = 0 ∨ y.magnitude = 0 then nan else infinity negative
  else
    let n := x.significand * y.significand
    let s := x.scale + y.scale
    if s < 0 then nearest negative n (twoTo s.natAbs)
    else nearest negative (n * twoTo s.natAbs) 1

/-- The integer that a double equals, if it equals one. -/
def toInt? (x : Double) : Option Int :=
  if x.isFinite then
    let (n, d) := x.ratio
    let q : Int := (n / d : Nat)
    if n % d = 0 then some (if x.isNegative then -q else q) else none
  else none

end Double

end VoipCalls
