/-!
# Blank characters

`isBlank` is the white space of the program: every place that trims a text, or cuts it into words,
asks this predicate.  It holds of the Unicode spaces and line separators and of the four
information separators of ASCII, and of no zero-width character.

Texts are handled as lists of characters here, so that trimming is `dropWhile` from either end and
its laws are laws of lists; `strip` is the same operation on `String`.
-/

namespace VoipCalls.Text

/-- The blank characters. -/
def isBlank (c : Char) : Bool :=
  let n := c.toNat
  (9 ≤ n && n ≤ 13) || (28 ≤ n && n ≤ 32) || n == 0x85 || n == 0xA0 || n == 0x1680 ||
    (0x2000 ≤ n && n ≤ 0x200A) || n == 0x2028 || n == 0x2029 || n == 0x202F || n == 0x205F ||
    n == 0x3000

/-- The blanks that are no information separators. -/
def isSpace (c : Char) : Bool :=
  isBlank c && !(28 ≤ c.toNat && c.toNat ≤ 31)

/-- The text without the blanks it starts with. -/
def trimLeft (cs : List Char) : List Char :=
  cs.dropWhile isBlank

/-- The text without the blanks it ends with. -/
def trimRight (cs : List Char) : List Char :=
  (cs.reverse.dropWhile isBlank).reverse

/-- The text without blanks at either end. -/
def trim (cs : List Char) : List Char :=
  trimRight (trimLeft cs)

/-- The blanks of ASCII that are no information separators. -/
def isPlainSpace (c : Char) : Bool :=
  let n := c.toNat
  (9 ≤ n && n ≤ 13) || n == 32

/-- The text without the characters of a class at either end. -/
def trimAll (drops : Char → Bool) (cs : List Char) : List Char :=
  ((cs.dropWhile drops).reverse.dropWhile drops).reverse

/-- The text without spaces at either end; information separators stay. -/
def trimSpaces (cs : List Char) : List Char :=
  trimAll isSpace cs

/-- One step of `words`, from the right: `w` is the word under construction, `ws` the words after
it. -/
def wordsStep (c : Char) : List Char × List (List Char) → List Char × List (List Char)
  | (w, ws) => if isBlank c then (if w.isEmpty then ([], ws) else ([], w :: ws)) else (c :: w, ws)

/-- The maximal runs of characters that are not blank. -/
def words (cs : List Char) : List (List Char) :=
  let r := cs.foldr wordsStep ([], [])
  if r.1.isEmpty then r.2 else r.1 :: r.2

/-- The text without blanks at either end. -/
def strip (s : String) : String :=
  String.ofList (trim s.toList)

/-- The text without the blanks it ends with. -/
def stripRight (s : String) : String :=
  String.ofList (trimRight s.toList)

@[simp] theorem trim_nil : trim [] = [] := rfl

end VoipCalls.Text
