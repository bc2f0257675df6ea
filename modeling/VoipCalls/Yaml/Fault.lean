import VoipCalls.Number.Integer
import VoipCalls.Text.Quoted

/-!
# Faults of a text

Why a text is no document.  Ill-formed text has one cause for all.  The other causes are scalars
whose form or tag promises a value that does not exist.
-/

namespace VoipCalls.Yaml

open Text (Point)

/-- Why a text is no document. -/
inductive Fault where
  | illFormed
  | badInteger (base : Nat) (text : List Point)
  | longInteger (digits : Nat)
  | noInteger
  | badReal (text : List Point)
  | longReal
  | noTruth (word : List Point)
  | badDate (reason : String)
  | badOffset (minutes : Int)
  | noDate
  | noDateText
  | badCodePoint
  | hugeCodePoint
  | endless
deriving DecidableEq, Repr

/-- An amount of minutes in days and seconds, of which the days alone may be negative. -/
def spanText (minutes : Int) : String :=
  let days := minutes.fdiv 1440
  let seconds := minutes.fmod 1440 * 60
  let parts :=
    (if days = 0 then [] else [s!"days={days}"]) ++
      (if seconds = 0 then [] else [s!"seconds={seconds}"])
  "datetime.timedelta(" ++ (if parts.isEmpty then "0" else ", ".intercalate parts) ++ ")"

/-- The wording of a fault. -/
def Fault.message : Fault → String
  | illFormed => "Invalid YAML in config file"
  | badInteger base text =>
    s!"invalid literal for int() with base {base}: " ++
      String.ofList ((Text.quoted text).take 200)
  | longInteger digits =>
    s!"Exceeds the limit ({Number.maxDigits} digits) for integer string conversion: " ++
      s!"value has {digits} digits; use sys.set_int_max_str_digits() to increase the limit"
  | noInteger => "string index out of range"
  | badReal text => "could not convert string to float: " ++ String.ofList (Text.quoted text)
  | longReal => "int too large to convert to float"
  | noTruth word => String.ofList (Text.quoted word)
  | badDate reason => reason
  | badOffset minutes =>
    "offset must be a timedelta strictly between -timedelta(hours=24) and timedelta(hours=24), " ++
      "not " ++ spanText minutes ++ "."
  | noDate => "'NoneType' object has no attribute 'groupdict'"
  | noDateText => "expected string or bytes-like object, got 'list'"
  | badCodePoint => "chr() arg not in range(0x110000)"
  | hugeCodePoint => "Python int too large to convert to C int"
  | endless => "maximum recursion depth exceeded"

/-- Whether a fault is one of the text that its author is told about; the other faults end the
reading without a word. -/
def Fault.isReported : Fault → Bool
  | noInteger | longReal | noTruth _ | noDate | noDateText | hugeCodePoint | endless => false
  | _ => true

end VoipCalls.Yaml
