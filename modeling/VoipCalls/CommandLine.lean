import VoipCalls.Replay
import VoipCalls.Settings.Load
import VoipCalls.Text.Terminal

/-!
# The command line

Three commands work on a capture: `calls` prints the call table, `filter` a display filter for
selected calls, and `flow` their flow sequence.  `CommandLine.run` takes the arguments and the files
they may name, and gives what is printed, or the message of an error, or the mere fact that the
arguments are wrong.  The arguments are checked in the order in which they are first used, the
capture last; the first that is wrong decides.
-/

namespace VoipCalls

namespace CommandLine

/-- How a run ends.  A failure that is no one's fault has no message. -/
inductive Outcome where
  | success (printed : String)
  | failure (message : String)
  | usage
deriving DecidableEq

/-- The commands. -/
inductive Command where
  | calls
  | filter
  | flow
deriving DecidableEq

/-- The command of a name. -/
def Command.ofName? : String → Option Command
  | "calls" => some calls
  | "filter" => some filter
  | "flow" => some flow
  | _ => none

/-- What the arguments say, before it is checked, and the options with values in the order of their
first use. -/
structure Arguments where
  captures : List String := []
  allFlows : Bool := false
  descending : Bool := false
  sort : Option String := none
  selected : List String := []
  settings : Option String := none
  order : List String := []

/-- What an option does: it stands alone, or it takes a value. -/
inductive OptionKind where
  | flag (set : Arguments → Arguments)
  | valued (set : String → Arguments → Arguments)

/-- The options of a command. -/
def option? (c : Command) (name : String) : Option OptionKind :=
  match name with
  | "--all-flows" => some (.flag fun a => { a with allFlows := true })
  | "--config" => some (.valued fun v a => { a with settings := some v })
  | "--sort" =>
    if c = .calls then some (.valued fun v a => { a with sort := some v }) else none
  | "--descending" =>
    if c = .calls then some (.flag fun a => { a with descending := true }) else none
  | "--call" =>
    if c = .calls then none else some (.valued fun v a => { a with selected := a.selected ++ [v] })
  | _ => none

/-- Whether an argument is an option. -/
def isOption (arg : String) : Bool :=
  arg.toList.head? = some '-' && 1 < arg.length

/-- The name of an option and the value behind its equals sign, if there is one. -/
def splitOption (arg : String) : String × Option String :=
  match Text.cutAt ['='] arg.toList with
  | some (name, value) => (String.ofList name, some (String.ofList value))
  | none => (arg, none)

/-- Note that an option is used. -/
def noteUse (name : String) (a : Arguments) : Arguments :=
  if a.order.contains name then a else { a with order := a.order ++ [name] }

/-- Read arguments in which options and paths may be mixed; behind two dashes there are only
paths. -/
def parse (c : Command) : List String → Arguments → Option Arguments
  | [], a => some a
  | "--" :: args, a => some { a with captures := a.captures ++ args }
  | arg :: args, a =>
    if isOption arg then
      let (name, value?) := splitOption arg
      match option? c name, value? with
      | some (.flag set), none => parse c args (set a)
      | some (.valued set), some v => parse c args (noteUse name (set v a))
      | some (.valued set), none =>
        match args with
        | [] => none
        | v :: args => parse c args (noteUse name (set v a))
      | _, _ => none
    else parse c args { a with captures := a.captures ++ [arg] }

/-- A checked request. -/
structure Request where
  capture : String
  allFlows : Bool
  descending : Bool
  sort : Option Column
  selected : List Int
  settings : Option String

/-- Check a path that has to name a file.  No path holds the character of number zero, and looking
for one that does is a failure. -/
def checkPath (fs : Files) (path : String) : Except Outcome Unit :=
  if path.toList.any (·.toNat = 0) then .error (.failure "")
  else if fs.hasFile path then .ok ()
  else .error .usage

/-- Check the value of an option: the name of a column, numbers, or the path of a file. -/
def checkOption (fs : Files) (a : Arguments) : String → Except Outcome Unit
  | "--sort" =>
    if a.sort.all fun name => (Column.ofName? name).isSome then .ok () else .error .usage
  | "--call" =>
    if a.selected.all fun n => (Number.readInteger? n).isSome then .ok () else .error .usage
  | _ => a.settings.toList.forM (checkPath fs)

/-- Check the arguments of a command: known names, readable numbers, files that are there, one
capture, and at least one call where calls are selected. -/
def check (c : Command) (fs : Files) (a : Arguments) : Except Outcome Request := do
  a.order.forM (checkOption fs a)
  a.captures.head?.toList.forM (checkPath fs)
  let [capture] := a.captures | throw .usage
  if a.selected.isEmpty && c ≠ .calls then throw .usage
  return {
    capture
    allFlows := a.allFlows
    descending := a.descending
    sort := a.sort.bind Column.ofName?
    selected := a.selected.filterMap Number.readInteger?
    settings := a.settings }

/-- A failure, with its message if it is one that its author is told about. -/
def failure (isReported : Bool) (message : String) : Outcome :=
  .failure (if isReported then "Error: " ++ message else "")

/-- The settings of a request. -/
def settings (fs : Files) (r : Request) : Except Outcome Settings :=
  match r.settings with
  | none => .ok {}
  | some path =>
    (Settings.load fs path).mapError fun fault => failure fault.isReported fault.message

/-- The session of a request, with its capture replayed. -/
def session (fs : Files) (r : Request) : Except Outcome Session := do
  let new := Session.new (← settings fs r) (if r.allFlows then some true else none)
  let reply ← (new.replayFile fs r.capture Session.defaultBatchSize).mapError fun fault =>
    failure fault.isReported fault.message
  return reply.session

/-- A line as it is printed where there is no terminal. -/
def echo (s : String) : String :=
  String.ofList (Text.withoutControls s.toList) ++ "\n"

/-- A line without the blanks it ends with. -/
def line (cells : List String) : String :=
  echo (Text.stripRight ("  ".intercalate cells))

/-- The heading of the call table. -/
def tableHeading (t : Table) : String :=
  line (Text.padLeft 4 "ID" :: Column.all.map fun c => Text.padRight (t.widthOf c) c.title)

/-- A row of the call table. -/
def tableLine (t : Table) (r : Row) : String :=
  line (Text.padLeft 4 (toString r.record.callId) ::
    Column.all.map fun c => Text.padRight (t.widthOf c) (r.text c))

/-- Print the call table. -/
def printCalls (r : Request) (s : Session) : String :=
  let t :=
    match r.sort with
    | some c => s.table.sortBy c r.descending
    | none => if r.descending then s.table.sortBy s.table.sortColumn true else s.table
  echo s!"{s.title}: {s.intake.store.size} calls" ++ tableHeading t ++
    String.join (t.presented.map (tableLine t))

/-- Print the filter of the selected calls. -/
def printFilter (r : Request) (s : Session) : String :=
  echo (s.prepareFilter r.selected).value

/-- A line of the flow sequence. -/
def flowLine (precision : Nat) (e : SequenceEvent) : String :=
  echo (s!"{Text.padLeft 6 (toString e.frame)}  {e.time.fixed precision}  " ++
    s!"{e.src.display} -> {e.dst.display}  [call {e.call}]  {e.frameLabel}")

/-- Print the flow sequence of the selected calls. -/
def printFlow (r : Request) (s : Session) : String :=
  let reply := s.showSequence r.selected
  if reply.value.isSome then
    String.join (reply.session.diagram.map (flowLine s.settings.precision))
  else ""

/-- What a command prints. -/
def Command.print : Command → Request → Session → String
  | calls => printCalls
  | filter => printFilter
  | flow => printFlow

/-- Run a command. -/
def runCommand (c : Command) (args : List String) (fs : Files) : Outcome :=
  match parse c args {} with
  | none => .usage
  | some a =>
    match check c fs a with
    | .error outcome => outcome
    | .ok r =>
      match session fs r with
      | .ok s => .success (c.print r s)
      | .error outcome => outcome

/-- Arguments without two dashes in front of the command. -/
def withoutDashes : List String → List String
  | "--" :: args => args
  | args => args

/-- Run the program on its arguments. -/
def run (args : List String) (fs : Files) : Outcome :=
  match withoutDashes args with
  | [] => .usage
  | name :: args =>
    match Command.ofName? name with
    | some c => runCommand c args fs
    | none => .usage

end CommandLine

end VoipCalls
