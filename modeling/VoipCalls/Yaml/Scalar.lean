import VoipCalls.Yaml.Cursor
import VoipCalls.Yaml.Fault

/-!
# Scalars

The three ways to write a scalar: plain, between quotation marks, and as a block of lines.  Each
reader takes the place where the scalar starts and gives its text and the place behind it.  A line
break inside a plain or quoted scalar is folded: one break reads as a space, and of several the
first is dropped.  Escapes can write any point, so that the text of a quoted scalar may be broken.
-/

namespace VoipCalls.Yaml

open Text (Point)

/-- A folded line break: `first` is the first break, `more` are the empty lines behind it. -/
def folded (first : Char) (more : List Char) : List Char :=
  if first ≠ '\n' then first :: more else if more.isEmpty then [' '] else more

/-! ### Plain scalars -/

/-- Whether a colon ends a plain scalar in front of this character. -/
def endsAfterColon (flow : Bool) (c : Char) : Bool :=
  isGap c || (flow && ",[]\x7b\x7d".toList.contains c)

/-- The number of characters up to the end of a word of a plain scalar. -/
def plainLength (flow : Bool) : List Char → Nat
  | [] => 0
  | c :: cs =>
    if isGap c || (c == ':' && endsAfterColon flow (cs.headD (Char.ofNat 0))) ||
        (flow && ",?[]\x7b\x7d".toList.contains c) then 0
    else plainLength flow cs + 1

/-- What separates two words of a plain scalar. -/
structure PlainGap where
  text : List Char
  broken : Bool
  cursor : Cursor

/-- The empty lines ahead within a plain scalar; nothing if they end at a document separator. -/
def plainBreaks (c : Cursor) : Nat → List Char → Option (List Char) × Cursor
  | 0, breaks => (some breaks, c)
  | fuel + 1, breaks =>
    if c.peek == ' ' then plainBreaks c.step fuel breaks
    else
      match c.lineBreak? with
      | none => (some breaks, c)
      | some (ch, c') =>
        if c'.atSeparator then (none, c') else plainBreaks c' fuel (breaks ++ [ch])

/-- The gap ahead between two words of a plain scalar. -/
def plainGap (c : Cursor) : PlainGap :=
  let (spaces, c) := c.span (· == ' ')
  match c.lineBreak? with
  | none => ⟨spaces, false, c⟩
  | some (first, c) =>
    if c.atSeparator then ⟨[], true, c⟩
    else
      match plainBreaks c c.rest.length [] with
      | (none, c) => ⟨[], true, c⟩
      | (some more, c) => ⟨folded first more, true, c⟩

/-- The words of a plain scalar behind the text so far.  `indent` is the least column of its further
lines; the truth value in the answer says whether the scalar ended at a line break. -/
def plainWords (flow : Bool) (indent : Nat) :
    Nat → Cursor → List Char → Bool → List Char × Bool × Cursor
  | 0, c, text, broken => (text, broken, c)
  | fuel + 1, c, text, broken =>
    let n := if c.peek == '#' then 0 else plainLength flow c.rest
    if n = 0 then (text, broken, c)
    else
      let word := c.rest.take n
      let gap := plainGap (c.skip n)
      let next := gap.cursor
      if gap.text.isEmpty || next.peek == '#' || (!flow && next.column < indent) then
        (text ++ word, gap.broken, next)
      else
        let m := if next.peek == '#' then 0 else plainLength flow next.rest
        if m = 0 then (text ++ word, gap.broken, next)
        else plainWords flow indent fuel next (text ++ word ++ gap.text) gap.broken

/-- Read a plain scalar. -/
def readPlain (flow : Bool) (indent : Nat) (c : Cursor) : List Char × Bool × Cursor :=
  plainWords flow indent c.rest.length c [] false

/-! ### Quoted scalars -/

/-- The character that a letter behind a backslash stands for. -/
def escaped? (c : Char) : Option Nat :=
  match c with
  | '0' => some 0
  | 'a' => some 7
  | 'b' => some 8
  | 't' => some 9
  | '\t' => some 9
  | 'n' => some 10
  | 'v' => some 11
  | 'f' => some 12
  | 'r' => some 13
  | 'e' => some 27
  | ' ' => some 32
  | '"' => some 34
  | '\\' => some 92
  | '/' => some 47
  | 'N' => some 0x85
  | '_' => some 0xA0
  | 'L' => some 0x2028
  | 'P' => some 0x2029
  | _ => none

/-- The number of hexadecimal digits behind a letter that announces a code point. -/
def codeSize? (c : Char) : Option Nat :=
  match c with
  | 'x' => some 2
  | 'u' => some 4
  | 'U' => some 8
  | _ => none

/-- The empty lines and leading blanks ahead within a quoted scalar. -/
def quotedBreaks (c : Cursor) : Nat → List Char → Except Fault (List Char × Cursor)
  | 0, breaks => .ok (breaks, c)
  | fuel + 1, breaks =>
    if c.atSeparator then .error .illFormed
    else
      let c := c.skipWhile fun ch => ch == ' ' || ch == '\t'
      match c.lineBreak? with
      | some (ch, c') => quotedBreaks c' fuel (breaks ++ [ch])
      | none => .ok (breaks, c)

/-- The largest number of a point. -/
def lastPoint : Nat := 0x10FFFF

/-- The largest number that is looked at as one of a point at all. -/
def lastCode : Nat := 0x7FFFFFFF

/-- Read an escape behind its backslash. -/
def readEscape (c : Cursor) : Except Fault (List Point × Cursor) :=
  match escaped? c.peek, codeSize? c.peek with
  | some n, _ => .ok ([Point.ofNat n], c.step)
  | none, some size =>
    let c := c.step
    match (c.rest.take size).mapM Text.hexDigit? with
    | none => .error .illFormed
    | some ds =>
      let n := Text.ofDigits 16 ds
      if ds.length < size then .error .illFormed
      else if lastCode < n then .error .hugeCodePoint
      else if lastPoint < n then .error .badCodePoint
      else .ok ([Point.ofNat n], c.skip size)
  | none, none =>
    match c.lineBreak? with
    | some (_, c') => do
      let (breaks, c') ← quotedBreaks c' (c'.rest.length + 1) []
      return (Text.points breaks, c')
    | none => .error .illFormed

/-- The characters that need a closer look inside a quoted scalar. -/
def isQuotedSpecial (c : Char) : Bool :=
  c.toNat == 39 || c == '"' || c.toNat == 92 || isGap c

/-- Read a quoted scalar behind its opening mark. -/
def readQuoted (double : Bool) : Nat → Cursor → List Point → Except Fault (List Point × Cursor)
  | 0, _, _ => .error .illFormed
  | fuel + 1, c, text => do
    let (word, c) := c.span fun ch => !isQuotedSpecial ch
    let text := text ++ Text.points word
    let ch := c.peek
    if ch.toNat == 39 && !double && (c.peekAt 1).toNat == 39 then
      readQuoted double fuel (c.skip 2) (text ++ [.char ch])
    else if ch.toNat == (if double then 34 else 39) then return (text, c.step)
    else if ch.toNat == 39 || ch == '"' || (ch.toNat == 92 && !double) then
      readQuoted double fuel c.step (text ++ [.char ch])
    else if ch.toNat == 92 then
      let (more, c) ← readEscape c.step
      readQuoted double fuel c (text ++ more)
    else
      let (spaces, c) := c.span fun ch => ch == ' ' || ch == '\t'
      match c.lineBreak? with
      | some (first, c) =>
        let (more, c) ← quotedBreaks c (c.rest.length + 1) []
        readQuoted double fuel c (text ++ Text.points (folded first more))
      | none =>
        if c.rest.isEmpty then .error .illFormed
        else readQuoted double fuel c (text ++ Text.points spaces)

/-! ### Block scalars -/

/-- What the header of a block scalar asks for: whether the breaks at its end are kept (`some true`)
or dropped (`some false`), and how far it is indented. -/
structure BlockHeader where
  keep : Option Bool := none
  increment : Option Nat := none

/-- Read a sign that says what happens to the breaks at the end. -/
def readChomping (h : BlockHeader) (c : Cursor) : BlockHeader × Cursor :=
  if c.peek == '+' then ({ h with keep := some true }, c.step)
  else if c.peek == '-' then ({ h with keep := some false }, c.step)
  else (h, c)

/-- Read a digit that says how far the scalar is indented. -/
def readIncrement (h : BlockHeader) (c : Cursor) : Except Fault (BlockHeader × Cursor) :=
  match Text.asciiDigit? c.peek with
  | some 0 => .error .illFormed
  | some n => .ok ({ h with increment := some n }, c.step)
  | none => .ok (h, c)

/-- Read the header of a block scalar, up to the end of its line. -/
def readBlockHeader (c : Cursor) : Except Fault (BlockHeader × Cursor) := do
  let (h, c) := readChomping {} c
  let (h, c) ← readIncrement h c
  let (h, c) := if h.keep.isNone then readChomping h c else (h, c)
  if !isSpaceOrEnd c.peek then throw .illFormed
  let c := c.skipSpaces.skipComment
  if !isLineEnd c.peek then throw .illFormed
  return (h, ((c.lineBreak?).map (·.2)).getD c)

/-- The empty lines ahead of the first line of a block scalar, and the widest indentation seen. -/
def blockIndentation : Nat → Cursor → List Char → Nat → List Char × Nat × Cursor
  | 0, c, breaks, widest => (breaks, widest, c)
  | fuel + 1, c, breaks, widest =>
    if c.peek == ' ' then
      let c := c.step
      blockIndentation fuel c breaks (max widest c.column)
    else
      match c.lineBreak? with
      | some (ch, c') => blockIndentation fuel c' (breaks ++ [ch]) widest
      | none => (breaks, widest, c)

/-- The empty lines ahead within a block scalar. -/
def blockBreaks (indent : Nat) : Nat → Cursor → List Char → List Char × Cursor
  | 0, c, breaks => (breaks, c)
  | fuel + 1, c, breaks =>
    let c := c.skipSpacesTo indent
    match c.lineBreak? with
    | some (ch, c') => blockBreaks indent fuel c' (breaks ++ [ch])
    | none => (breaks, c)

/-- The lines of a block scalar behind the text so far.  In the answer, `last` is the break behind
the last line and `breaks` are the empty lines after it. -/
def blockLines (foldLines : Bool) (indent : Nat) :
    Nat → Cursor → List Char → List Char → List Char × List Char × List Char × Cursor
  | 0, c, text, breaks => (text, [], breaks, c)
  | fuel + 1, c, text, breaks =>
    if c.column ≠ indent ∨ c.rest.isEmpty then (text, [], breaks, c)
    else
      let indented := c.peek == ' ' || c.peek == '\t'
      let (line, c) := c.span fun ch => !isLineEnd ch
      let text := text ++ breaks ++ line
      let (last, c) :=
        match c.lineBreak? with
        | some (ch, c') => ([ch], c')
        | none => ([], c)
      let (breaks, c) := blockBreaks indent (c.rest.length + 1) c []
      if c.column = indent ∧ !c.rest.isEmpty then
        let nextIndented := c.peek == ' ' || c.peek == '\t'
        let joint :=
          if foldLines && last == ['\n'] && !indented && !nextIndented then
            (if breaks.isEmpty then [' '] else [])
          else last
        blockLines foldLines indent fuel c (text ++ joint) breaks
      else (text, last, breaks, c)

/-- Read a block scalar behind its indicator; `indent` is the indentation of the block around
it. -/
def readBlock (foldLines : Bool) (indent : Int) (c : Cursor) :
    Except Fault (List Char × Cursor) := do
  let (h, c) ← readBlockHeader c
  let least := (max 1 (indent + 1)).toNat
  let (breaks, column, c) :=
    match h.increment with
    | none =>
      let (breaks, widest, c) := blockIndentation c.rest.length c [] 0
      (breaks, max least widest, c)
    | some n =>
      let column := least + n - 1
      let (breaks, c) := blockBreaks column (c.rest.length + 1) c []
      (breaks, column, c)
  let (text, last, breaks, c) := blockLines foldLines column (c.rest.length + 1) c [] breaks
  let text := if h.keep = some false then text else text ++ last
  return (if h.keep = some true then text ++ breaks else text, c)

end VoipCalls.Yaml
