import VoipCalls.Number.Integer
import VoipCalls.Text.Split

/-!
# Lenient integers

How an integer may be written in a typed field: in ASCII digits with blanks around it, a sign,
zeros in front, single underscores between digits, and a fraction of zeros.  The text is tidied
first, and what is left has to be an integer in its one strict form.  Among the zeros in front a
tidied text loses all its underscores, and a sign may stand behind them.
-/

namespace VoipCalls.Number

/-- The number that a strict text writes: a minus or none, and digits of which the first is no zero
unless it stands alone.  The sign counts when the length is limited. -/
def readStrict (cs : List Char) : Except IntegerFault Int :=
  let negative := cs.head? = some '-'
  let body := if negative then cs.tail else cs
  let run := body.takeWhile fun c => (Text.asciiDigit? c).isSome
  let size := cs.length - body.length + run.length
  if run.isEmpty then .error .unreadable
  else if run.head? = some '0' then
    if run.length = 1 ∧ body.length = 1 then .ok 0 else .error .unreadable
  else if maxDigits < size then .error (.tooLong size)
  else if run.length < body.length then .error .unreadable
  else .ok (signed negative (Text.ofDigits 10 (run.filterMap Text.asciiDigit?)))

/-- The text behind zeros and the underscores among them; `last` is the character in front.  The
last zero stays in front of a point, and at the end. -/
def behindZeros? (last : Char) : List Char → Option (List Char)
  | [] => some [last]
  | c :: cs =>
    if c = '0' ∨ c = '_' then behindZeros? c cs
    else if c = '-' ∨ (Text.asciiDigit? c).isSome then some (c :: cs)
    else if c = '.' then some (last :: c :: cs)
    else none

/-- A text without the zeros in front of its number. -/
def withoutZeros? : List Char → Option (List Char)
  | [] => none
  | c :: cs =>
    if c = '0' then behindZeros? c cs
    else if c = '-' ∨ (Text.asciiDigit? c).isSome then some (c :: cs)
    else none

/-- A text without a plus in front, and without the zeros behind the sign. -/
def withoutFront? : List Char → Option (List Char)
  | '+' :: '-' :: _ => none
  | '+' :: cs => withoutZeros? cs
  | '-' :: cs => (withoutZeros? cs).map ('-' :: ·)
  | cs => withoutZeros? cs

/-- A text without a point with one or more zeros behind it. -/
def withoutZeroFraction (cs : List Char) : List Char :=
  match Text.cutAt ['.'] cs with
  | some (whole, fraction) =>
    if !fraction.isEmpty && fraction.all (· == '0') then whole else cs
  | none => cs

/-- A text without its underscores, if each stands alone between other characters. -/
def withoutUnderscores (cs : List Char) : List Char :=
  if hasLooseUnderscore cs then cs else cs.filter (· != '_')

/-- Read a lenient integer. -/
def readLenient (cs : List Char) : Except IntegerFault Int :=
  match withoutFront? (Text.trimSpaces cs) with
  | none => .error .unreadable
  | some cs => readStrict (withoutUnderscores (withoutZeroFraction cs))

end VoipCalls.Number
