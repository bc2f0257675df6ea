import VoipCalls.Text.Percent
import VoipCalls.Yaml.Scalar

/-!
# Tokens

`tokens` cuts a text into the tokens of its block and flow structure.  A text with a fault still has
the tokens in front of it.  Three things depend on what came before:

* the indentation of the open blocks: a token further left closes blocks, a key or entry further
  right opens one;
* whether a key may stand at the present place at all (`keyAllowed`);
* the places where a key may have started.  Only a colon shows that it did, so the token that
  announces the key is put in afterwards; the place is given up at the end of its line or after
  1024 characters.
-/

namespace VoipCalls.Yaml

open Text (Point)

/-- A token of a text. -/
inductive Token where
  | version (major : Nat)
  | handle (name : String) (expansion : String)
  | otherDirective
  | documentStart
  | documentEnd
  | blockSequence
  | blockMapping
  | blockEnd
  | flowSequence
  | flowSequenceEnd
  | flowMapping
  | flowMappingEnd
  | key
  | value
  | blockEntry
  | flowEntry
  | alias (name : String)
  | anchor (name : String)
  | tag (handle : Option String) (suffix : String)
  | scalar (text : List Point) (plain : Bool)
deriving DecidableEq, Repr

/-- A place where a key may have started. -/
structure KeyPlace where
  level : Nat
  tokenCount : Nat
  required : Bool
  index : Nat
  line : Nat
  column : Nat

/-- What is remembered between tokens.  The tokens are kept in reverse order. -/
structure LexState where
  cursor : Cursor
  reversed : List Token := []
  indent : Int := -1
  outer : List Int := []
  level : Nat := 0
  keyAllowed : Bool := true
  places : List KeyPlace := []

/-- A step of the reader.  A fault leaves the state that was reached. -/
abbrev Lex := ExceptT Fault (StateM LexState)

namespace Lex

/-- Move to a place. -/
def goto (c : Cursor) : Lex Unit :=
  modify fun s => { s with cursor := c }

/-- Add a token at the end. -/
def emit (t : Token) : Lex Unit :=
  modify fun s => { s with reversed := t :: s.reversed }

/-- Put a token in, behind the first `n` ones. -/
def emitAfter (n : Nat) (t : Token) : Lex Unit :=
  modify fun s =>
    let back := s.reversed.length - n
    { s with reversed := s.reversed.take back ++ t :: s.reversed.drop back }

/-- Say whether a key may stand next. -/
def allowKey (b : Bool) : Lex Unit :=
  modify fun s => { s with keyAllowed := b }

/-- The place where a key of the present flow level may have started. -/
def keyPlace? : Lex (Option KeyPlace) := do
  let s ← get
  return s.places.find? (·.level == s.level)

/-- Forget the place of the present flow level. -/
def dropKeyPlace : Lex Unit :=
  modify fun s => { s with places := s.places.filter (·.level != s.level) }

/-- Give up the place of the present flow level; a key that had to stand there is missing. -/
def giveUpKey : Lex Unit := do
  match ← keyPlace? with
  | none => pure ()
  | some p =>
    if p.required then throw .illFormed
    dropKeyPlace

/-- Give up the places that are on another line or too far back. -/
def giveUpStale : Lex Unit := do
  let s ← get
  let stale (p : KeyPlace) : Bool :=
    p.line != s.cursor.line || 1024 < s.cursor.index - p.index
  if s.places.any fun p => stale p && p.required then throw .illFormed
  set { s with places := s.places.filter fun p => !stale p }

/-- Remember that a key may start here. -/
def rememberKey : Lex Unit := do
  let s ← get
  if s.keyAllowed then
    giveUpKey
    let place : KeyPlace :=
      { level := s.level
        tokenCount := s.reversed.length
        required := s.level == 0 && s.indent == s.cursor.column
        index := s.cursor.index
        line := s.cursor.line
        column := s.cursor.column }
    modify fun s => { s with places := place :: s.places }

/-- Close the blocks that are indented further than a column. -/
def closeBlocks (column : Int) : Lex Unit := do
  let s ← get
  if s.level == 0 then
    let deeper := (s.indent :: s.outer).takeWhile (column < ·)
    let remaining := (s.indent :: s.outer).drop deeper.length
    set
      { s with
        reversed := deeper.map (fun _ => Token.blockEnd) ++ s.reversed
        indent := remaining.headD (-1)
        outer := remaining.tail }

/-- Whether a block has to be opened at a column; if so, it is open afterwards. -/
def openBlock (column : Nat) : Lex Bool := do
  let s ← get
  if s.indent < column then
    set { s with indent := (column : Int), outer := s.indent :: s.outer }
    return true
  else return false

/-- Go to the next token: spaces, comments and line breaks are skipped.  Outside flow collections a
line break allows a key again. -/
def skipToToken : Nat → Lex Unit
  | 0 => pure ()
  | fuel + 1 => do
    let s ← get
    let c := s.cursor.skipSpaces.skipComment
    match c.lineBreak? with
    | some (_, c') =>
      goto c'
      if s.level == 0 then allowKey true
      skipToToken fuel
    | none => goto c

/-- Characters of names of anchors, directives and handles. -/
def isNameChar (c : Char) : Bool :=
  c.isAlphanum || c == '-' || c == '_'

/-- Characters of tags. -/
def isTagChar (c : Char) : Bool :=
  c.isAlphanum || "-;/?:@&=+$,_.!~*()[]%".toList.contains c || c.toNat == 39

/-- Read the text of a tag, in which any character may be escaped. -/
def readTagText (c : Cursor) : Except Fault (String × Cursor) :=
  let (cs, c') := c.span isTagChar
  match Text.Percent.unescape? cs with
  | some text => if cs.isEmpty then .error .illFormed else .ok (String.ofList text, c')
  | none => .error .illFormed

/-- Read the handle of a tag: an exclamation mark, or two with a name between them. -/
def readHandle (c : Cursor) : Except Fault (String × Cursor) :=
  if c.peek != '!' then .error .illFormed
  else if c.peekAt 1 == ' ' then .ok ("!", c.step)
  else
    let (name, c') := c.step.span isNameChar
    if c'.peek != '!' then .error .illFormed
    else .ok (String.ofList ('!' :: name ++ ['!']), c'.step)

/-- Read a number of a version. -/
def readNumber (c : Cursor) : Except Fault (Nat × Cursor) :=
  let (cs, c') := c.span fun ch => (Text.asciiDigit? ch).isSome
  if cs.isEmpty then .error .illFormed
  else if Number.maxDigits < cs.length then .error (.longInteger cs.length)
  else .ok (Text.ofDigits 10 (cs.filterMap Text.asciiDigit?), c')

/-- Read what follows the name of a directive. -/
def readDirectiveValue (name : String) (c : Cursor) : Except Fault (Token × Cursor) := do
  match name with
  | "YAML" =>
    let (major, c) ← readNumber c.skipSpaces
    if c.peek != '.' then throw .illFormed
    let (_, c) ← readNumber c.step
    if !isSpaceOrEnd c.peek then throw .illFormed
    return (.version major, c)
  | "TAG" =>
    let (handle, c) ← readHandle c.skipSpaces
    if c.peek != ' ' then throw .illFormed
    let (expansion, c) ← readTagText c.skipSpaces
    if !isSpaceOrEnd c.peek then throw .illFormed
    return (.handle handle expansion, c)
  | _ => return (.otherDirective, c.skipWhile fun ch => !isLineEnd ch)

/-- Read a directive, up to the end of its line. -/
def directive : Lex Unit := do
  closeBlocks (-1)
  giveUpKey
  allowKey false
  let (name, c) := (← get).cursor.step.span isNameChar
  if name.isEmpty || !isSpaceOrEnd c.peek then throw .illFormed
  let (t, c) ← readDirectiveValue (String.ofList name) c
  let c := c.skipSpaces.skipComment
  if !isLineEnd c.peek then throw .illFormed
  goto (((c.lineBreak?).map (·.2)).getD c)
  emit t

/-- Read a line that separates documents. -/
def separator (t : Token) : Lex Unit := do
  closeBlocks (-1)
  giveUpKey
  allowKey false
  goto ((← get).cursor.skip 3)
  emit t

/-- Read the opening of a flow collection. -/
def openFlow (t : Token) : Lex Unit := do
  rememberKey
  modify fun s => { s with level := s.level + 1, cursor := s.cursor.step }
  allowKey true
  emit t

/-- Read the closing of a flow collection. -/
def closeFlow (t : Token) : Lex Unit := do
  giveUpKey
  if (← get).level == 0 then throw .illFormed
  modify fun s => { s with level := s.level - 1, cursor := s.cursor.step }
  allowKey false
  emit t

/-- Read the comma between entries of a flow collection. -/
def flowComma : Lex Unit := do
  allowKey true
  giveUpKey
  goto (← get).cursor.step
  emit .flowEntry

/-- Open a block at the present column if one has to be opened there. -/
def openHere (t : Token) : Lex Unit := do
  let s ← get
  if s.level == 0 then
    if !s.keyAllowed then throw .illFormed
    if ← openBlock s.cursor.column then emit t

/-- Read the dash of a block entry. -/
def entryDash : Lex Unit := do
  openHere .blockSequence
  allowKey true
  giveUpKey
  goto (← get).cursor.step
  emit .blockEntry

/-- Read the question mark in front of a key. -/
def keyMark : Lex Unit := do
  openHere .blockMapping
  allowKey ((← get).level == 0)
  giveUpKey
  goto (← get).cursor.step
  emit .key

/-- Read the colon in front of a value.  A key that started on this line is announced now. -/
def valueMark : Lex Unit := do
  match ← keyPlace? with
  | some p =>
    dropKeyPlace
    emitAfter p.tokenCount .key
    if (← get).level == 0 then
      if ← openBlock p.column then emitAfter p.tokenCount .blockMapping
    allowKey false
  | none =>
    openHere .blockMapping
    allowKey ((← get).level == 0)
    giveUpKey
  goto (← get).cursor.step
  emit .value

/-- Whether a character may stand behind the name of an anchor. -/
def endsName (c : Char) : Bool :=
  isGap c || "?:,]\x7d%@".toList.contains c || c.toNat == 96

/-- Read an anchor or an alias. -/
def named (make : String → Token) : Lex Unit := do
  rememberKey
  allowKey false
  let (name, c) := (← get).cursor.step.span isNameChar
  if name.isEmpty || !endsName c.peek then throw .illFormed
  goto c
  emit (make (String.ofList name))

/-- Read the handle and the suffix of a tag. -/
def readTag (c : Cursor) : Except Fault (Token × Cursor) := do
  let next := c.peekAt 1
  if next == '<' then
    let (suffix, c) ← readTagText (c.skip 2)
    if c.peek != '>' then throw .illFormed
    return (.tag none suffix, c.step)
  else if isGap next then return (.tag none "!", c.step)
  else
    let ahead := c.rest.tail.takeWhile fun ch => !isSpaceOrEnd ch
    let (handle, c) ← if ahead.contains '!' then readHandle c else pure ("!", c.step)
    let (suffix, c) ← readTagText c
    return (.tag (some handle) suffix, c)

/-- Read a tag. -/
def tagMark : Lex Unit := do
  rememberKey
  allowKey false
  let (t, c) ← readTag (← get).cursor
  if !isSpaceOrEnd c.peek then throw .illFormed
  goto c
  emit t

/-- Read a block scalar. -/
def blockScalar (foldLines : Bool) : Lex Unit := do
  allowKey true
  giveUpKey
  let s ← get
  let (text, c) ← readBlock foldLines s.indent s.cursor.step
  goto c
  emit (.scalar (Text.points text) false)

/-- Read a quoted scalar. -/
def quotedScalar (double : Bool) : Lex Unit := do
  rememberKey
  allowKey false
  let c := (← get).cursor.step
  let (text, c) ← readQuoted double (c.rest.length + 1) c []
  goto c
  emit (.scalar text false)

/-- Read a plain scalar. -/
def plainScalar : Lex Unit := do
  rememberKey
  let s ← get
  let (text, broken, c) := readPlain (s.level != 0) (s.indent + 1).toNat s.cursor
  allowKey broken
  goto c
  emit (.scalar (Text.points text) true)

/-- Whether a plain scalar may start with a character in front of another one. -/
def startsPlain (inFlow : Bool) (c next : Char) : Bool :=
  if isGap c then false
  else if c == '-' then !isGap next
  else if c == '?' || c == ':' then !isGap next && !inFlow
  else !(",[]\x7b\x7d#&*!|>\"%@".toList.contains c || c.toNat == 39 || c.toNat == 96)

/-- Read the next token; the answer is false at the end of the text. -/
def next : Lex Bool := do
  skipToToken ((← get).cursor.rest.length + 1)
  giveUpStale
  closeBlocks (← get).cursor.column
  let s ← get
  let c := s.cursor
  let ch := c.peek
  let gapNext := isGap (c.peekAt 1)
  let inFlow := s.level != 0
  if c.rest.isEmpty then
    closeBlocks (-1)
    giveUpKey
    return false
  if ch == '%' && c.column == 0 then directive
  else if c.column == 0 && c.atMarker '-' then separator .documentStart
  else if c.column == 0 && c.atMarker '.' then separator .documentEnd
  else if ch == '[' then openFlow .flowSequence
  else if ch == '\x7b' then openFlow .flowMapping
  else if ch == ']' then closeFlow .flowSequenceEnd
  else if ch == '\x7d' then closeFlow .flowMappingEnd
  else if ch == ',' then flowComma
  else if ch == '-' && gapNext then entryDash
  else if ch == '?' && (inFlow || gapNext) then keyMark
  else if ch == ':' && (inFlow || gapNext) then valueMark
  else if ch == '*' then named .alias
  else if ch == '&' then named .anchor
  else if ch == '!' then tagMark
  else if ch == '|' && !inFlow then blockScalar false
  else if ch == '>' && !inFlow then blockScalar true
  else if ch.toNat == 39 then quotedScalar false
  else if ch == '"' then quotedScalar true
  else if startsPlain inFlow ch (c.peekAt 1) then plainScalar
  else throw .illFormed
  return true

/-- Read tokens up to the end of the text. -/
def all : Nat → Lex Unit
  | 0 => pure ()
  | fuel + 1 => do
    if ← next then all fuel

end Lex

/-- The characters that may stand in a text. -/
def isPrintable (c : Char) : Bool :=
  let n := c.toNat
  n == 9 || n == 10 || n == 13 || (0x20 ≤ n && n ≤ 0x7E) || n == 0x85 ||
    (0xA0 ≤ n && n ≤ 0xFFFD) || 0x10000 ≤ n

/-- The tokens of a text, up to a fault if there is one. -/
def tokens (cs : List Char) : List Token × Option Fault :=
  if cs.all isPrintable then
    let start : Cursor := { rest := cs }
    let start := if isByteOrderMark start.peek then start.step else start
    match (Lex.all (cs.length + 1)).run { cursor := start } with
    | (.error fault, s) => (s.reversed.reverse, some fault)
    | (.ok _, s) => (s.reversed.reverse, if s.level = 0 then none else some .illFormed)
  else ([], some .illFormed)

end VoipCalls.Yaml
