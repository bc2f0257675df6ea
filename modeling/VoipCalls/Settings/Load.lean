import VoipCalls.Files
import VoipCalls.Settings.Basic
import VoipCalls.Text.Line
import VoipCalls.Text.Utf8
import VoipCalls.Yaml.Reading

/-!
# Loading settings

Settings are kept in a YAML file in UTF-8.  `Settings.load` reads the file under a path, and gives
the settings or the reason why there are none.
-/

namespace VoipCalls

/-- Why settings cannot be loaded. -/
inductive LoadFault where
  | fileMissing (name : String)
  | path (fault : PathFault)
  | notUtf8 (error : Text.Utf8.Error)
  | yaml (fault : Yaml.Fault)
  | notAMapping
  | invalid (errors : List FieldError)
deriving DecidableEq

/-- The wording of a fault, on one line. -/
def LoadFault.message : LoadFault → String
  | fileMissing name => s!"Config file not found: {name}"
  | path fault => fault.message
  | notUtf8 error => error.message
  | yaml fault => fault.message
  | notAMapping => "Configuration root must be a YAML object"
  | invalid _ => "Invalid configuration"

/-- Whether a fault is one of the settings, which their author is told about. -/
def LoadFault.isReported : LoadFault → Bool
  | path _ => false
  | yaml fault => fault.isReported
  | _ => true

namespace Settings

/-- The settings that a document says; an empty document says nothing. -/
def ofRoot : Document → Except LoadFault Settings
  | .null => .ok {}
  | .mapping entries => (ofDocument (.mapping entries)).mapError .invalid
  | _ => .error .notAMapping

/-- How deep the values lie that settings look at: a section, a field, and what the field holds. -/
def maxDepth : Nat := 3

/-- The settings in the bytes of a file. -/
def ofBytes (bytes : List UInt8) : Except LoadFault Settings := do
  let cs ← (Text.Utf8.decode bytes).mapError .notUtf8
  ofRoot (← (Yaml.read maxDepth (Text.universalBreaks cs)).mapError .yaml)

/-- The settings in the file under a path. -/
def load (fs : Files) (path : String) : Except LoadFault Settings := do
  match ← (fs.file? path).mapError .path with
  | none => .error (.fileMissing (Text.normalPath path))
  | some (bytes, _) => ofBytes bytes

/-- The settings that an environment variable points to; without one, or with a blank one, the
default settings. -/
def fromEnvironment (value : Option String) (fs : Files) : Except LoadFault Settings := do
  let path := Text.strip (value.getD "")
  if path.isEmpty then return {}
  load fs (← (fs.expandHome path).mapError .path)

end Settings

end VoipCalls
