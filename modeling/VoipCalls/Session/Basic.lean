import VoipCalls.Filter.Choice
import VoipCalls.Session.Host
import VoipCalls.Settings.Basic
import VoipCalls.Table

/-!
# The session

A session owns the intake and the table of one open capture.  Its operations answer with a `Reply`:
the value returned, the session afterwards, and what its host hears of it.
-/

namespace VoipCalls

/-- Which actions on a selection are possible. -/
structure Actions where
  prepareFilter : Bool
  flowSequence : Bool
  playCall : Bool
deriving DecidableEq

/-- The state of a session. -/
structure Session where
  settings : Settings
  intake : Intake
  table : Table
  closed : Bool := false
deriving DecidableEq

/-- The answer of a session to an operation. -/
structure Reply (α : Type) where
  value : α
  session : Session
  hooks : List Hook := []
  alerts : List Alert := []

namespace Session

/-- A new session.  `allFlows` overrides the choice of flows in the settings. -/
def new (settings : Settings) (allFlows : Option Bool) : Session where
  settings := settings
  intake :=
    { tap :=
        { flowShow :=
            match allFlows with
            | none => settings.flowShow
            | some true => .all
            | some false => .onlyInvites } }
  table :=
    { sortColumn := settings.sortColumn
      descending := settings.descending
      precision := settings.precision }

/-- The title of the call list. -/
def title (s : Session) : String :=
  if s.intake.tap.flowShow = .all then "SIP Flows" else "VoIP Calls"

/-- Open a capture: everything of the one before is forgotten, except the choice of flows and the
sorting of the table. -/
def openCapture (s : Session) : Session :=
  { s with
    intake :=
      { store := s.intake.store.clear
        sequence := s.intake.sequence.clear
        tap := s.intake.tap.reset }
    table := s.table.clear
    closed := false }

/-- Close the capture: the tap is detached, what was gathered stays. -/
def closeCapture (s : Session) : Session :=
  { s with
    intake := { s.intake with tap := s.intake.tap.detach }
    closed := true }

/-- Open a batch of updates. -/
def enter (s : Session) : Session :=
  { s with intake := { s.intake with store := s.intake.store.enter } }

/-- Leave a batch of updates. -/
def leave (s : Session) : Session :=
  { s with intake := { s.intake with store := s.intake.store.leave } }

/-- Take one classification event. -/
def packet (s : Session) (e : Event) : Reply Verdict :=
  let (verdict, intake) := s.intake.packet e
  { value := verdict, session := { s with intake }, alerts := alertsOf e verdict }

/-- Draw the table anew. -/
def refresh (s : Session) : Session :=
  { s with table := s.table.refresh s.intake.store }

/-- Redraw if a redraw is due; the answer says whether it was. -/
def draw (s : Session) : Reply Bool :=
  match s.intake.draw with
  | (true, intake) =>
    let s' := { s with intake }.refresh
    { value := true, session := s', hooks := [.redraw s'.table.rows.length] }
  | (false, intake) => { value := false, session := { s with intake } }

/-- Go to the first frame of a call. -/
def activate (s : Session) (id : Int) : Reply (Option Int) :=
  match (s.intake.store.get? id).bind (·.startFrame) with
  | none => { value := none, session := s }
  | some frame => { value := some frame, session := s, hooks := [.goToFrame frame] }

/-- The numbers of all published calls. -/
def selectAll (s : Session) : List Int :=
  s.intake.store.published.map (·.callId)

/-- Which actions a selection allows.  Calls can be filtered for and drawn once there are events;
calls are never played back. -/
def actionsEnabled (s : Session) (selected : List Int) : Actions :=
  let enabled := !selected.isEmpty && 0 < s.intake.sequence.size
  { prepareFilter := enabled, flowSequence := enabled, playCall := false }

/-- Compile the filter of a selection. -/
def prepareFilter (s : Session) (selected : List Int) : Reply String :=
  if selected.isEmpty then { value := "", session := s }
  else
    let store := s.intake.store
    let filter := buildFilter selected s.intake.sequence store s.settings.maxLength
    { value := filter
      session := s
      hooks := [.filterReady filter]
      alerts := (danglingEvents selected s.intake.sequence (some store)).map .dangling }

/-- Prepare the flow diagram of a selection. -/
def showSequence (s : Session) (selected : List Int) : Reply (Option Handoff) :=
  if s.closed || selected.isEmpty then { value := none, session := s }
  else
    let x := s.intake.sequence
    { value := some (x.handoff selected)
      session := { s with intake := { s.intake with sequence := x.showOnly selected } }
      hooks := [.sequenceReady (x.handoff selected)] }

/-- The events that the flow diagram shows. -/
def diagram (s : Session) : List SequenceEvent :=
  s.intake.sequence.visible

/-- Sort the table by a column from now on. -/
def sortBy (s : Session) (c : Column) (descending : Bool) : Session :=
  { s with table := s.table.sortBy c descending }

end Session

end VoipCalls
