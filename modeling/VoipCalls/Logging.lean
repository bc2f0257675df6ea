import VoipCalls.Text.Blank
import VoipCalls.Text.Case
import VoipCalls.Text.Quoted

/-!
# Logging

How the log is set up from the environment, and how a log record gets the category and the
correlation id that it lacks.
-/

namespace VoipCalls.Logging

/-- The levels by name. -/
def levels : List (String × Nat) :=
  [("NOTSET", 0), ("DEBUG", 10), ("INFO", 20), ("WARN", 30), ("WARNING", 30), ("ERROR", 40),
    ("FATAL", 50), ("CRITICAL", 50)]

/-- The level of ordinary messages. -/
def infoLevel : Nat := 20

/-- The level of warnings. -/
def warningLevel : Nat := 30

/-- The category of a record that has none. -/
def defaultCategory : String := "CONFIG"

/-- The correlation id outside any session. -/
def noCorrelation : String := "-"

/-- The values of environment variables. -/
abbrev Environment := List (String × String)

/-- The value of a variable, in which later settings hide earlier ones. -/
def valueOf (env : Environment) (name : String) : Option String :=
  env.reverse.lookup name

/-- What a name among the settings of the log stands for: a level, or the layout of lines, or all
layouts that there are. -/
inductive Named where
  | level (n : Nat)
  | layout (text : String)
  | layouts (shown : String)
deriving DecidableEq, Repr

/-- The layout of lines where no other is given. -/
def basicFormat : String := "%(levelname)s:%(name)s:%(message)s"

/-- The layouts of lines by their marks, as they are shown. -/
def styles : String :=
  "\x7b'%': (<class 'logging.PercentStyle'>, '%(levelname)s:%(name)s:%(message)s'), " ++
    "'\x7b': (<class 'logging.StrFormatStyle'>, " ++
    "'\x7blevelname\x7d:\x7bname\x7d:\x7bmessage\x7d'), " ++
    "'$': (<class 'logging.StringTemplateStyle'>, " ++
    "'$\x7blevelname\x7d:$\x7bname\x7d:$\x7bmessage\x7d')\x7d"

/-- What a name stands for. -/
def named? (name : String) : Option Named :=
  match name with
  | "BASIC_FORMAT" => some (.layout basicFormat)
  | "_STYLES" => some (.layouts styles)
  | name => (levels.lookup name).map .level

/-- What the value of a variable names, in any case; the level `default` for any other value. -/
def levelOf (value : Option String) (default : Nat) : Named :=
  (named? (Text.toUpper (Text.strip (value.getD "")))).getD (.level default)

/-- Why the log cannot be set up: what a variable names is no level. -/
inductive LevelFault where
  | layout (text : String)
  | layouts (shown : String)
deriving DecidableEq, Repr

/-- The wording of a fault. -/
def LevelFault.message : LevelFault → String
  | layout text => "Unknown level: " ++ Text.quote text
  | layouts shown => "Level not an integer or a valid string: " ++ shown

/-- The number of a level. -/
def Named.number : Named → Except LevelFault Nat
  | level n => .ok n
  | layout text => .error (.layout text)
  | layouts shown => .error (.layouts shown)

/-- A value unless it is missing or empty. -/
def orElse (value : Option String) (default : String) : String :=
  match value with
  | some v => if v.isEmpty then default else v
  | none => default

/-- The category and the correlation id of a record. -/
structure Stamp where
  category : String
  correlationId : String
deriving DecidableEq

/-- Stamp a record that may have either already; `current` is the id of the session at work. -/
def stamp (current : String) (category correlationId : Option String) : Stamp :=
  ⟨orElse category defaultCategory, orElse correlationId current⟩

/-- Where log records go. -/
inductive Handler where
  | console
  | rotatingFile (maxBytes backups : Nat) (encoding : String)
deriving DecidableEq

/-- The layout of a line of the log. -/
def lineFormat : String :=
  "%(asctime)s | %(levelname)s | %(category)s | cid=%(correlation_id)s | %(name)s | " ++
    "%(filename)s:%(lineno)d %(funcName)s() | %(message)s"

/-- The loggers of other programs that are quieted. -/
def noisyLoggers : List String :=
  ["scapy.runtime", "scapy.loading", "uvicorn.access", "asyncio"]

/-- The values that switch the log file off. -/
def offWords : List String := ["0", "false", "no"]

/-- Whether the log also goes to a file. -/
def wantsFile (env : Environment) : Bool :=
  let value := (valueOf env "VOIPTAP_LOG_TO_FILE").getD "1"
  !offWords.contains (Text.toLower (Text.strip value))

/-- The state of the log: its level, its handlers once they are installed, and the level of the
noisy loggers. -/
structure State where
  level : Nat := warningLevel
  handlers : List Handler := []
  noisyLevel : Option Nat := none
deriving DecidableEq

/-- The handlers that the environment asks for. -/
def handlersFor (env : Environment) : List Handler :=
  .console :: if wantsFile env then [.rotatingFile (10 * 1024 * 1024) 10 "utf-8"] else []

/-- Set up the log.  The level follows the environment every time, the handlers are installed
once. -/
def setup (env : Environment) (s : State) : Except LevelFault State := do
  let level ← (levelOf (valueOf env "VOIPTAP_LOG_LEVEL") infoLevel).number
  if s.noisyLevel.isSome then return { s with level }
  let noisyLevel ←
    (levelOf (valueOf env "VOIPTAP_EXTERNAL_LIB_LOG_LEVEL") warningLevel).number
  return { level, handlers := handlersFor env, noisyLevel := some noisyLevel }

end VoipCalls.Logging
