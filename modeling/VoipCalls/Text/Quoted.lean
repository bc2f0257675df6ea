import VoipCalls.Text.Hex
import VoipCalls.Text.HiddenTable
import VoipCalls.Text.Point
import VoipCalls.Text.Ranges

/-!
# Quoted texts

`quoted` puts a text between quotation marks, the way messages show what they complain about.  The
marks are single ones, unless only single ones stand in the text.  The mark and the backslash get a
backslash in front, and points without a picture are written by their numbers.
-/

namespace VoipCalls.Text

/-- The quotation mark for a text that holds single and double marks or not. -/
def quotationMark (holdsSingle holdsDouble : Bool) : Char :=
  if holdsSingle && !holdsDouble then '"' else '\''

/-- A number in hexadecimal digits, with zeros in front up to `width` digits. -/
def hexPadded (width n : Nat) : List Char :=
  let ds := Nat.toDigits 16 n
  List.replicate (width - ds.length) '0' ++ ds

/-- The escape that writes a point by its number. -/
def numberEscape (n : Nat) : List Char :=
  if n ≤ 0xFF then '\\' :: 'x' :: hexPadded 2 n
  else if n ≤ 0xFFFF then '\\' :: 'u' :: hexPadded 4 n
  else '\\' :: 'U' :: hexPadded 8 n

/-- Whether a point has no picture. -/
def isHidden (n : Nat) : Bool :=
  n < 32 || n == 127 || (128 ≤ n && inRanges hiddenRanges n)

/-- The spelling of a point between quotation marks. -/
def quotedPoint (mark : Char) (p : Point) : List Char :=
  let c := p.toChar
  if c = '\t' then ['\\', 't']
  else if c = '\n' then ['\\', 'n']
  else if c = '\r' then ['\\', 'r']
  else if c = '\\' ∨ c = mark then ['\\', c]
  else if isHidden p.toNat then numberEscape p.toNat
  else [c]

/-- A text between quotation marks. -/
def quoted (ps : List Point) : List Char :=
  let mark := quotationMark (ps.contains (.char '\'')) (ps.contains (.char '"'))
  mark :: ps.flatMap (quotedPoint mark) ++ [mark]

/-- A text between quotation marks. -/
def quote (s : String) : String :=
  String.ofList (quoted (points s.toList))

end VoipCalls.Text
