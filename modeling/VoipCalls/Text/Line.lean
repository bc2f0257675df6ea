/-!
# Lines of a text

`lines` cuts a text at every line break.  A carriage return followed by a line feed is one break,
and a break at the very end opens no further line.
-/

namespace VoipCalls.Text

/-- The characters that end a line. -/
def isLineBreak (c : Char) : Bool :=
  let n := c.toNat
  (10 ≤ n && n ≤ 13) || (28 ≤ n && n ≤ 30) || n == 0x85 || n == 0x2028 || n == 0x2029

/-- Put a character in front of the first line. -/
def consLine (c : Char) : List (List Char) → List (List Char)
  | [] => [[c]]
  | l :: ls => (c :: l) :: ls

/-- The lines of a text, without their breaks. -/
def lines : List Char → List (List Char)
  | [] => []
  | '\r' :: '\n' :: rest => [] :: lines rest
  | c :: rest => if isLineBreak c then [] :: lines rest else consLine c (lines rest)

/-- Every carriage return followed by a line feed becomes a line feed alone. -/
def unifyBreaks : List Char → List Char
  | [] => []
  | '\r' :: '\n' :: rest => '\n' :: unifyBreaks rest
  | c :: rest => c :: unifyBreaks rest

/-- Every carriage return, alone or followed by a line feed, becomes a line feed. -/
def universalBreaks : List Char → List Char
  | [] => []
  | '\r' :: '\n' :: rest => '\n' :: universalBreaks rest
  | c :: rest => (if c = '\r' then '\n' else c) :: universalBreaks rest

end VoipCalls.Text
