import VoipCalls.Number.Lenient
import VoipCalls.Settings.Document
import VoipCalls.Text.Utf8

/-!
# Reading the fields of a document

How lenient the typed fields of settings are.  An integer may also be written as a truth value, as a
double without a fraction, or as a text of digits or its bytes.  A value that cannot be read is
refused with the kind of the fault.
-/

namespace VoipCalls

/-- Why a field of a document is refused. -/
inductive FieldFault where
  | notAMapping
  | notAMember
  | outOfRange
  | fraction
  | notFinite
  | notAnInteger
  | tooLarge
  | unreadable
  | brokenText
deriving DecidableEq, Repr

/-- The name of a fault. -/
def FieldFault.name : FieldFault → String
  | notAMapping => "model_type"
  | notAMember => "enum"
  | outOfRange => "value_error"
  | fraction => "int_from_float"
  | notFinite => "finite_number"
  | notAnInteger => "int_parsing"
  | tooLarge => "int_parsing_size"
  | unreadable => "int_type"
  | brokenText => "string_unicode"

namespace Document

/-- The integer that a double stands for; it has to lie within 64 bits. -/
def integerOfDouble (x : Double) : Except FieldFault Int :=
  if !x.isFinite then .error .notFinite
  else
    match x.toInt? with
    | none => .error .fraction
    | some n => if n.natAbs < Number.twoTo 63 then .ok n else .error .tooLarge

/-- The integer that a text stands for. -/
def integerOfText (cs : List Char) : Except FieldFault Int :=
  match Number.readLenient cs with
  | .ok n => .ok n
  | .error .unreadable => .error .notAnInteger
  | .error (.tooLong _) => .error .tooLarge

/-- Read an integer field. -/
def toInteger : Document → Except FieldFault Int
  | whole n => .ok n
  | truth b => .ok (if b then 1 else 0)
  | real x => integerOfDouble x
  | text s => integerOfText s.toList
  | brokenText => .error .brokenText
  | octets bs =>
    match Text.Utf8.decode bs with
    | .ok cs => integerOfText cs
    | .error _ => .error .notAnInteger
  | _ => .error .unreadable

end Document

end VoipCalls
