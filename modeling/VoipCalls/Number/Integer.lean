import VoipCalls.Text.Digit

/-!
# Reading integers

`readIn base` reads an integer as people write it: with blanks around it, a sign, digits of any
script, and single underscores between digits.  Numbers in a base that is no power of two may have
at most `maxDigits` digits.  In bases two, eight and sixteen a letter may announce the base.
-/

namespace VoipCalls.Number

/-- The most digits of a number that is read. -/
def maxDigits : Nat := 4300

/-- Why a text is no integer that is read. -/
inductive IntegerFault where
  | unreadable
  | tooLong (digits : Nat)
deriving DecidableEq, Repr

/-- Split off a sign; true for a minus. -/
def sign : List Char → Bool × List Char
  | '-' :: cs => (true, cs)
  | '+' :: cs => (false, cs)
  | cs => (false, cs)

/-- The integer of a sign and an absolute value. -/
def signed (negative : Bool) (n : Nat) : Int :=
  if negative then -(n : Int) else n

/-- The letter that announces a base behind a zero. -/
def baseLetter? : Nat → Option Char
  | 2 => some 'b'
  | 8 => some 'o'
  | 16 => some 'x'
  | _ => none

/-- A text without the zero and the letter that announce its base, and without an underscore behind
them. -/
def withoutBase (base : Nat) : List Char → List Char
  | '0' :: letter :: cs =>
    if baseLetter? base = some letter.toLower then
      match cs with
      | '_' :: cs => cs
      | cs => cs
    else '0' :: letter :: cs
  | cs => cs

/-- The value of a digit in a base. -/
def digitIn? (base : Nat) (c : Char) : Option Nat :=
  (Text.hexDigit? c).filter (· < base)

/-- Whether two underscores stand side by side, or one at an end. -/
def hasLooseUnderscore (cs : List Char) : Bool :=
  cs.head? == some '_' || cs.getLast? == some '_' ||
    (cs.zip cs.tail).any fun p => p.1 == '_' && p.2 == '_'

/-- Read an integer in a base. -/
def readIn (base : Nat) (cs : List Char) : Except IntegerFault Int := do
  let (negative, cs) := sign ((Text.plainDigits cs).dropWhile Text.isPlainSpace)
  let cs := withoutBase base cs
  let run := cs.takeWhile fun c => c == '_' || (digitIn? base c).isSome
  if run.isEmpty ∨ hasLooseUnderscore run then throw .unreadable
  let ds := run.filterMap (digitIn? base)
  if (baseLetter? base).isNone ∧ maxDigits < ds.length then throw (.tooLong ds.length)
  if !(cs.drop run.length).all Text.isPlainSpace then throw .unreadable
  return signed negative (Text.ofDigits base ds)

/-- Read a decimal integer. -/
def readInteger? (s : String) : Option Int :=
  (readIn 10 s.toList).toOption

end VoipCalls.Number
