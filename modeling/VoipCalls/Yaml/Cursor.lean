/-!
# A place in a text

A `Cursor` is a place in a text that is read from left to right: the characters ahead, and the line
and column reached.  Past the end it sees the character NUL, which no text that is read here holds.
-/

namespace VoipCalls.Yaml

/-- A place in a text. -/
structure Cursor where
  rest : List Char
  index : Nat := 0
  line : Nat := 0
  column : Nat := 0

/-- The characters that break a line. -/
def isBreak (c : Char) : Bool :=
  c.toNat == 10 || c.toNat == 0x85 || c.toNat == 0x2028 || c.toNat == 0x2029

/-- A line break, or the end of the text. -/
def isLineEnd (c : Char) : Bool :=
  c.toNat == 0 || isBreak c

/-- A space, a line break, or the end of the text. -/
def isSpaceOrEnd (c : Char) : Bool :=
  c == ' ' || isLineEnd c

/-- A space, a tab, a line break, or the end of the text. -/
def isGap (c : Char) : Bool :=
  c == '\t' || isSpaceOrEnd c

/-- The mark that may stand at the start of a text to tell its encoding. -/
def isByteOrderMark (c : Char) : Bool :=
  c.toNat == 0xFEFF

namespace Cursor

/-- The character a number of places ahead. -/
def peekAt (c : Cursor) (n : Nat) : Char :=
  (c.rest[n]?).getD (Char.ofNat 0)

/-- The next character. -/
def peek (c : Cursor) : Char :=
  c.rest.headD (Char.ofNat 0)

/-- The place behind the next character. -/
def step (c : Cursor) : Cursor :=
  match c.rest with
  | [] => c
  | ch :: rest =>
    if isBreak ch then { rest, index := c.index + 1, line := c.line + 1, column := 0 }
    else if isByteOrderMark ch then { c with rest, index := c.index + 1 }
    else { c with rest, index := c.index + 1, column := c.column + 1 }

/-- The place a number of characters ahead. -/
def skip (c : Cursor) : Nat → Cursor
  | 0 => c
  | n + 1 => c.step.skip n

/-- The characters ahead that satisfy a predicate, and the place behind them. -/
def span (c : Cursor) (p : Char → Bool) : List Char × Cursor :=
  let cs := c.rest.takeWhile p
  (cs, c.skip cs.length)

/-- The place behind the characters ahead that satisfy a predicate. -/
def skipWhile (c : Cursor) (p : Char → Bool) : Cursor :=
  (c.span p).2

/-- The place behind the spaces ahead. -/
def skipSpaces (c : Cursor) : Cursor :=
  c.skipWhile (· == ' ')

/-- The place behind the spaces ahead, as long as the column is less than `limit`. -/
def skipSpacesTo (c : Cursor) (limit : Nat) : Cursor :=
  c.skip ((c.rest.take (limit - c.column)).takeWhile (· == ' ')).length

/-- The character that a line break reads as, and the place behind it; nothing if there is no
break. -/
def lineBreak? (c : Cursor) : Option (Char × Cursor) :=
  let ch := c.peek
  if isBreak ch then some (if ch.toNat == 0x85 then '\n' else ch, c.step) else none

/-- Whether the marker of three characters stands ahead, with a gap behind it. -/
def atMarker (c : Cursor) (mark : Char) : Bool :=
  c.rest.take 3 == [mark, mark, mark] && isGap (c.peekAt 3)

/-- Whether a line ahead separates two documents. -/
def atSeparator (c : Cursor) : Bool :=
  c.atMarker '-' || c.atMarker '.'

/-- The place at the end of the line, behind a comment if one is ahead. -/
def skipComment (c : Cursor) : Cursor :=
  if c.peek == '#' then c.skipWhile fun ch => !isLineEnd ch else c

end Cursor

end VoipCalls.Yaml
