import VoipCalls.Number.Double
import VoipCalls.Number.Integer
import VoipCalls.Text.Case
import VoipCalls.Text.Split

/-!
# Reading decimals

`readDecimal?` reads a double as people write it: with blanks around it, a sign, digits of any
script, a point and an exponent, or as one of the words for infinity and for what is not a number.
An exponent that is out of all proportion decides the value without being worked out.
-/

namespace VoipCalls

/-- The double nearest to `± n · 10 ^ e`, also for exponents that are out of all proportion. -/
def Double.ofScientific (negative : Bool) (n : Nat) (e : Int) : Double :=
  let size : Int := (toString n).length
  if n = 0 ∨ size + e < -400 then ofMagnitude negative 0
  else if 400 < size + e then infinity negative
  else ofDecimal negative n e

namespace Number

/-- The value of an exponent: a sign or none, and one or more digits. -/
def exponent? (cs : List Char) : Option Int := do
  let (negative, cs) := sign cs
  let ds ← cs.mapM Text.asciiDigit?
  if ds.isEmpty then none
  return signed negative (Text.ofDigits 10 ds)

/-- The double of a sign and of a decimal in ASCII without a sign. -/
def unsignedDecimal? (negative : Bool) (cs : List Char) : Option Double := do
  let mantissa := cs.takeWhile fun c => c != 'e' && c != 'E'
  let exponent ←
    match cs.drop mantissa.length with
    | [] => some 0
    | _ :: es => exponent? es
  let (whole, fraction) := (Text.cutAt ['.'] mantissa).getD (mantissa, [])
  let ds ← (whole ++ fraction).mapM Text.asciiDigit?
  if ds.isEmpty then none
  return Double.ofScientific negative (Text.ofDigits 10 ds) (exponent - fraction.length)

/-- Read a decimal. -/
def readDecimal? (cs : List Char) : Option Double :=
  let (negative, cs) := sign (Text.trimAll Text.isPlainSpace (Text.plainDigits cs))
  let word := String.ofList (Text.lower cs)
  if word = "inf" ∨ word = "infinity" then some (Double.infinity negative)
  else if word = "nan" then some Double.nan
  else unsignedDecimal? negative cs

end Number

end VoipCalls
