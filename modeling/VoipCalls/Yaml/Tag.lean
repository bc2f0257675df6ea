import VoipCalls.Text.Digit
import VoipCalls.Text.Split

/-!
# Tags

A tag says what a node is.  `Tag.ofName` knows the standard tags by their full names, and
`Tag.ofPlain` gives a plain scalar without a tag the one that it looks like: a null, a truth value,
a number, a date, or else a text.  One line break at the end does not change what a scalar looks
like.
-/

namespace VoipCalls.Yaml

/-- What a node is.  All names that are not known are `unknown`. -/
inductive Tag where
  | null
  | truth
  | integer
  | real
  | binary
  | date
  | text
  | sequence
  | mapping
  | set
  | pairs
  | merge
  | default
  | unknown
deriving DecidableEq, Repr

namespace Tag

/-- What the standard tags are called in full begins so. -/
def space : String := "tag:yaml.org,2002:"

/-- The standard tags by the ends of their names. -/
def standard : List (String × Tag) :=
  [("null", null), ("bool", truth), ("int", integer), ("float", real), ("binary", binary),
    ("timestamp", date), ("str", text), ("seq", sequence), ("map", mapping), ("set", set),
    ("omap", pairs), ("pairs", pairs), ("merge", merge), ("value", default)]

/-- The tag of a full name. -/
def ofName (name : String) : Tag :=
  match Text.after? space.toList name.toList with
  | some rest => (standard.lookup (String.ofList rest)).getD unknown
  | none => unknown

/-- The spellings of truth values. -/
def truthWords : List String :=
  ["yes", "Yes", "YES", "no", "No", "NO", "true", "True", "TRUE", "false", "False", "FALSE",
    "on", "On", "ON", "off", "Off", "OFF"]

/-- The spellings of null that show something. -/
def nullWords : List String := ["~", "null", "Null", "NULL"]

/-- The marks that scalars cannot begin with, unless they are quoted. -/
def markWords : List String := ["!", "&", "*"]

/-- Digits of a base, or the underscores between them. -/
def isDigitIn (base : Nat) (c : Char) : Bool :=
  c == '_' || ((Text.hexDigit? c).map fun d => decide (d < base)).getD false

/-- Decimal digits. -/
def isDecimal (c : Char) : Bool :=
  (Text.asciiDigit? c).isSome

/-- A text without the sign in front of it. -/
def unsigned : List Char → List Char
  | '+' :: cs => cs
  | '-' :: cs => cs
  | cs => cs

/-- A decimal digit, and then digits and underscores. -/
def isDecimalRun : List Char → Bool
  | [] => false
  | c :: cs => isDecimal c && cs.all (isDigitIn 10)

/-- One decimal digit, or two below sixty. -/
def isSexagesimal : List Char → Bool
  | [a] => isDecimal a
  | [a, b] => '0' ≤ a && a ≤ '5' && isDecimal b
  | _ => false

/-- Numbers in base sixty: a decimal run and one or more further places behind colons. -/
def isBaseSixty (cs : List Char) : Bool :=
  match Text.pieces ':' cs with
  | first :: p :: ps => isDecimalRun first && (p :: ps).all isSexagesimal
  | _ => false

/-- An exponent with a sign, or nothing. -/
def isExponent : List Char → Bool
  | [] => true
  | e :: sign :: d :: ds =>
    (e == 'e' || e == 'E') && (sign == '+' || sign == '-') && (d :: ds).all isDecimal
  | _ => false

/-- Whether a text looks like an integer. -/
def looksInteger (cs : List Char) : Bool :=
  match unsigned cs with
  | ['0'] => true
  | '0' :: 'b' :: d :: ds => (d :: ds).all (isDigitIn 2)
  | '0' :: 'x' :: d :: ds => (d :: ds).all (isDigitIn 16)
  | '0' :: d :: ds => (d :: ds).all (isDigitIn 8)
  | cs => isDecimalRun cs || isBaseSixty cs

/-- Whether a text looks like a number with a point. -/
def looksReal (cs : List Char) : Bool :=
  let word := String.ofList (unsigned cs)
  if [".inf", ".Inf", ".INF"].contains word then true
  else if [".nan", ".NaN", ".NAN"].contains (String.ofList cs) then true
  else
    match Text.cutAt ['.'] (unsigned cs) with
    | none => false
    | some (whole, rest) =>
      let tail := rest.dropWhile (isDigitIn 10)
      if whole.isEmpty then
        cs.head? == some '.' && (rest.head?.map isDecimal).getD false && isExponent tail
      else (isDecimalRun whole && isExponent tail) || (isBaseSixty whole && tail.isEmpty)

end Tag

/-- A date, and a time of day behind it with the minutes it is ahead of universal time, if they are
given. -/
structure Date where
  year : Nat
  month : Nat
  day : Nat
  time : Option (Nat × Nat × Nat) := none
  offset : Option Int := none

namespace Date

/-- A number of decimal digits at the start of a text: their value and the rest. -/
def take? (n : Nat) (cs : List Char) : Option (Nat × List Char) := do
  let ds ← (cs.take n).mapM Text.asciiDigit?
  if ds.length < n then none
  return (Text.ofDigits 10 ds, cs.drop n)

/-- One or two decimal digits at the start of a text. -/
def takeUpToTwo? (cs : List Char) : Option (Nat × List Char) :=
  (take? 2 cs).or (take? 1 cs)

/-- Blanks within a line. -/
def isGap (c : Char) : Bool :=
  c == ' ' || c == '\t'

/-- The minutes of an offset from universal time behind its sign. -/
def offsetMinutes? (cs : List Char) : Option Nat := do
  let (hours, cs) ← takeUpToTwo? cs
  if cs.isEmpty then return hours * 60
  let (minutes, cs) ← take? 2 (← Text.after? [':'] cs)
  if cs.isEmpty then return hours * 60 + minutes else none

/-- The offset from universal time at the end of a text, which may have none. -/
def offset? (cs : List Char) : Option (Option Int) :=
  if cs.isEmpty then some none
  else
    match cs.dropWhile isGap with
    | ['Z'] => some none
    | '+' :: cs => (offsetMinutes? cs).map fun m => some (m : Int)
    | '-' :: cs => (offsetMinutes? cs).map fun m => some (-(m : Int))
    | _ => none

/-- What separates a time of day from the date in front of it. -/
def separator? : List Char → Option (List Char)
  | 'T' :: cs => some cs
  | 't' :: cs => some cs
  | c :: cs => if isGap c then some (cs.dropWhile isGap) else none
  | [] => none

/-- The date that a text writes. -/
def ofText? (cs : List Char) : Option Date := do
  let (year, cs) ← take? 4 cs
  let (month, cs) ← takeUpToTwo? (← Text.after? ['-'] cs)
  let (day, cs) ← takeUpToTwo? (← Text.after? ['-'] cs)
  if cs.isEmpty then return { year, month, day }
  let (hour, cs) ← takeUpToTwo? (← separator? cs)
  let (minute, cs) ← take? 2 (← Text.after? [':'] cs)
  let (second, cs) ← take? 2 (← Text.after? [':'] cs)
  let cs := match cs with
    | '.' :: cs => cs.dropWhile fun c => (Text.asciiDigit? c).isSome
    | cs => cs
  return { year, month, day, time := some (hour, minute, second), offset := ← offset? cs }

/-- Whether a text looks like a date: one that stands alone has two digits each for the month and
the day. -/
def looksDate (cs : List Char) : Bool :=
  match ofText? cs with
  | some d => d.time.isSome || cs.length == 10
  | none => false

/-- The number of days of a month. -/
def monthDays (year month : Nat) : Nat :=
  if month = 2 then
    (if (year % 4 = 0 ∧ year % 100 ≠ 0) ∨ year % 400 = 0 then 29 else 28)
  else if month = 4 ∨ month = 6 ∨ month = 9 ∨ month = 11 then 30
  else 31

end Date

/-- A text without a line break at its end. -/
def withoutBreak (cs : List Char) : List Char :=
  if cs.getLast? = some '\n' then cs.dropLast else cs

/-- What a plain scalar without a tag is. -/
def Tag.ofPlain (cs : List Char) : Tag :=
  let body := withoutBreak cs
  let word := String.ofList body
  if cs.isEmpty then .null
  else if truthWords.contains word then .truth
  else if looksReal body then .real
  else if looksInteger body then .integer
  else if word = "<<" then .merge
  else if nullWords.contains word then .null
  else if Date.looksDate body then .date
  else if word = "=" then .default
  else if markWords.contains word then .unknown
  else .text

end VoipCalls.Yaml
