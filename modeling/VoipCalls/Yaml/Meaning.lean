import VoipCalls.Number.Decimal
import VoipCalls.Settings.Document
import VoipCalls.Text.Base64
import VoipCalls.Yaml.Fault
import VoipCalls.Yaml.Tag

/-!
# What a scalar means

The readers `truth`, `integer`, `real`, `date` and `binary` give the value of a scalar that has the
tag of that kind, whether it was written out or seen in a plain scalar.  `ofScalar` chooses among
them by the tag.  A scalar whose tag promises a value that its text does not give is at fault.
-/

namespace VoipCalls.Yaml.Meaning

open Text (Point)

/-- A text without its underscores. -/
def withoutUnderscores (ps : List Point) : List Point :=
  ps.filter (· != .char '_')

/-- A text in lower case.  What is no character stays. -/
def lower (ps : List Point) : List Point :=
  match Text.characters? ps with
  | some cs => Text.points (Text.lower cs)
  | none => ps.flatMap fun p => (p.char?.map fun c => Text.points (Text.lowerChar c)).getD [p]

/-- Split off a sign; true for a minus. -/
def sign : List Point → Bool × List Point
  | .char '-' :: ps => (true, ps)
  | .char '+' :: ps => (false, ps)
  | ps => (false, ps)

/-- The truth value of a word. -/
def truth (ps : List Point) : Except Fault Bool :=
  let word := String.ofList (Text.shown (lower ps))
  if ["yes", "true", "on"].contains word then .ok true
  else if ["no", "false", "off"].contains word then .ok false
  else .error (.noTruth (lower ps))

/-- The number of a text in a base. -/
def numberIn (base : Nat) (ps : List Point) : Except Fault Int :=
  match Number.readIn base (Text.shown ps) with
  | .ok n => .ok n
  | .error .unreadable => .error (.badInteger base ps)
  | .error (.tooLong digits) => .error (.longInteger digits)

/-- The number of places in base sixty, first place highest. -/
def sixty (places : List Int) : Int :=
  places.foldl (fun n d => n * 60 + d) 0

/-- The value of an integer without its sign and its underscores: the front of the text tells the
base. -/
def unsignedInteger (ps : List Point) : Except Fault Int :=
  match Text.shown ps with
  | [] => .error .noInteger
  | ['0'] => .ok 0
  | '0' :: 'b' :: _ => numberIn 2 (ps.drop 2)
  | '0' :: 'x' :: _ => numberIn 16 (ps.drop 2)
  | '0' :: _ => numberIn 8 ps
  | cs =>
    if cs.contains ':' then
      ((Text.pieces (.char ':') ps).mapM (numberIn 10)).map sixty
    else numberIn 10 ps

/-- The value of an integer. -/
def integer (ps : List Point) : Except Fault Int :=
  let (negative, ps) := sign (withoutUnderscores ps)
  (unsignedInteger ps).map fun n => if negative then -n else n

/-- The double of a decimal. -/
def decimal (ps : List Point) : Except Fault Double :=
  match Number.readDecimal? (Text.shown ps) with
  | some x => .ok x
  | none => .error (.badReal ps)

/-- The sum of places in base sixty, lowest place first, in doubles: each place is multiplied by its
weight and added to the sum so far. -/
def sixtyReal : List Double → Int → Double → Except Fault Double
  | [], _, sum => .ok sum
  | x :: xs, weight, sum =>
    match Double.ofInt? weight with
    | some w => sixtyReal xs (weight * 60) (sum.add (x.mul w))
    | none => .error .longReal

/-- The value of a number with a point without its sign and its underscores. -/
def unsignedReal (ps : List Point) : Except Fault Double := do
  let cs := Text.shown ps
  if cs = ".inf".toList then return Double.infinity false
  if cs = ".nan".toList then return Double.nan
  if cs.contains ':' then
    let places ← (Text.pieces (.char ':') ps).mapM decimal
    sixtyReal places.reverse 1 .zero
  else decimal ps

/-- The value of a number with a point. -/
def real (ps : List Point) : Except Fault Double := do
  let ps := lower (withoutUnderscores ps)
  if ps.isEmpty then throw .noInteger
  let (negative, ps) := sign ps
  let x ← unsignedReal ps
  return if negative then x.neg else x

/-- The largest distance from universal time, in minutes, is less than a day. -/
def dayMinutes : Nat := 1440

/-- Check that a date exists. -/
def checkDate (d : Date) : Except Fault Unit := do
  if let some minutes := d.offset then
    if dayMinutes ≤ minutes.natAbs then throw (.badOffset minutes)
  if d.year = 0 then throw (.badDate "year 0 is out of range")
  if d.month < 1 ∨ 12 < d.month then throw (.badDate "month must be in 1..12")
  if d.day < 1 ∨ Date.monthDays d.year d.month < d.day then
    throw (.badDate "day is out of range for month")
  match d.time with
  | none => pure ()
  | some (hour, minute, second) =>
    if 23 < hour then throw (.badDate "hour must be in 0..23")
    if 59 < minute then throw (.badDate "minute must be in 0..59")
    if 59 < second then throw (.badDate "second must be in 0..59")

/-- Check that a text writes a date that exists. -/
def date (ps : List Point) : Except Fault Unit :=
  match Date.ofText? (withoutBreak (Text.shown ps)) with
  | some d => checkDate d
  | none => .error .noDate

/-- The bytes that a text writes in base 64. -/
def binary (ps : List Point) : Except Fault (List UInt8) :=
  let cs := Text.shown ps
  if cs.all (·.toNat < 128) then
    match Text.Base64.decode? cs with
    | some bs => .ok bs
    | none => .error .illFormed
  else .error .illFormed

/-- The document of a text. -/
def text (ps : List Point) : Document :=
  match Text.characters? ps with
  | some cs => .text (String.ofList cs)
  | none => .brokenText

/-- The document of a scalar; tags of other kinds have none. -/
def ofScalar (tag : Tag) (ps : List Point) : Except Fault Document :=
  match tag with
  | .null => .ok .null
  | .truth => (truth ps).map .truth
  | .integer => (integer ps).map .whole
  | .real => (real ps).map .real
  | .binary => (binary ps).map .octets
  | .date => (date ps).map fun _ => .foreign
  | .text => .ok (text ps)
  | _ => .error .illFormed

end VoipCalls.Yaml.Meaning
