import VoipCalls.Replay
import VoipCalls.Settings.Field

/-!
# The HTTP interface

The session behind an HTTP interface.  In front of it stands a web framework, which finds out what a
request is a command for and with which values, or answers the request by itself, and around it are
the files of the host, in which captures are found.  Neither of them is part of the program: what
they make of a request is the parameter `Front`, and nothing is assumed of it.

`Api.handle` answers one request; a request that is refused changes nothing.  A capture is loaded
into a session of its own, which takes the place of the present one only if the capture is there.  A
fault that is no wrong value ends the answering.
-/

namespace VoipCalls.Http

/-- A response.  The framework may answer without a body. -/
structure Response where
  status : Nat
  body : Option Document

/-- What a request is a command for, with the values that it names. -/
inductive Command where
  | health
  | load (path : String) (allFlows : Option Bool)
  | close
  | calls (sort : Option String) (descending : Bool)
  | activate (id : Int)
  | filter (selected : List Int)
  | sequence (selected : List Int)
deriving DecidableEq

/-- What is in front of the session and around it.  The requests are of type `ρ`; a request also
decides about the files that are there while it is answered.  Faults are of type `φ`. -/
structure Front (ρ φ : Type) where
  /-- The command of a request, or the response that it gets without one. -/
  command : ρ → Except Response Command
  /-- A path as it is written, with a home folder in the place of a tilde. -/
  expandHome : ρ → String → Except φ String
  /-- The packets of the capture under a path, if there is anything. -/
  capture : ρ → String → Except φ (Option (List Packet))
  /-- The wording of a fault that is a wrong value. -/
  wrongValue? : φ → Option String

/-- What the interface remembers between requests. -/
structure Api where
  settings : Settings
  session : Session

/-- The interface before the first request. -/
def Api.new (settings : Settings) : Api :=
  { settings, session := Session.new settings none }

/-- The response that a request is refused with, with the reason. -/
def refusal (status : Nat) (detail : String) : Response :=
  ⟨status, some (.record [("detail", .text detail)])⟩

/-- A response that grants a request. -/
def grant (fields : List (String × Document)) : Response :=
  ⟨200, some (.record fields)⟩

/-- A number in a response. -/
def count (n : Nat) : Document := .whole n

/-- A row of the call table in a response. -/
def rowDocument (r : Row) : Document :=
  .record (("call_id", .whole r.record.callId) ::
    Column.all.map fun c => (c.name, .text (r.text c)))

/-- An event of the flow sequence in a response. -/
def eventDocument (e : SequenceEvent) : Document :=
  .record
    [("conv_id", .whole e.call),
      ("frame_number", .whole e.frame),
      ("rel_ts", .real e.time),
      ("src", .text e.src.display),
      ("dst", .text e.dst.display),
      ("frame_label", .text e.frameLabel),
      ("comment", .text e.comment)]

namespace Api

variable {ρ φ : Type}

/-- The state of the session. -/
def health (a : Api) : Response :=
  grant
    [("status", .text "ok"),
      ("title", .text a.session.title),
      ("calls", count a.session.intake.store.size),
      ("closed", .truth a.session.closed)]

/-- The response to a capture that was loaded. -/
def loaded (reply : Reply Nat) : Response :=
  let s := reply.session
  grant
    [("title", .text s.title),
      ("events", count reply.value),
      ("calls", count s.intake.store.size),
      ("malformed_events", count s.intake.tap.malformed)]

/-- Load a capture into a new session. -/
def load (front : Front ρ φ) (a : Api) (r : ρ) (path : String) (allFlows : Option Bool) :
    Except φ (Api × Response) := do
  let path ← front.expandHome r path
  match front.capture r path with
  | .ok (some packets) =>
    let reply := (Session.new a.settings allFlows).replay packets Session.defaultBatchSize
    return ({ a with session := reply.session }, loaded reply)
  | .ok none => return (a, refusal 400 (CaptureFault.missing path).message)
  | .error fault =>
    match front.wrongValue? fault with
    | some wording => return (a, refusal 400 wording)
    | none => throw fault

/-- Close the session. -/
def close (a : Api) : Api × Response :=
  ({ a with session := a.session.closeCapture }, grant [("closed", .truth true)])

/-- List the calls, sorted anew if a column is named. -/
def calls (a : Api) (sort : Option String) (descending : Bool) : Api × Response :=
  let listed (s : Session) : Response :=
    grant [("title", .text s.title), ("calls", .list (s.table.presented.map rowDocument))]
  match sort with
  | none => (a, listed a.session)
  | some name =>
    match Column.ofName? name with
    | none => (a, refusal 400 s!"Unknown sort column: {name}")
    | some c =>
      let s := a.session.sortBy c descending
      ({ a with session := s }, listed s)

/-- Go to the first frame of a call. -/
def activate (a : Api) (id : Int) : Response :=
  match (a.session.activate id).value with
  | none => refusal 404 "Call not found"
  | some frame => grant [("call_id", .whole id), ("frame_number", .whole frame)]

/-- Compile the filter of selected calls. -/
def filter (a : Api) (selected : List Int) : Response :=
  grant [("filter", .text (a.session.prepareFilter selected).value)]

/-- Show the flow sequence of selected calls. -/
def sequence (a : Api) (selected : List Int) : Api × Response :=
  let reply := a.session.showSequence selected
  let (kind, events) :=
    match reply.value with
    | none => (a.session.intake.sequence.analysisType, [])
    | some h => (h.analysisType, reply.session.diagram)
  ({ a with session := reply.session },
    grant [("analysis_type", .text kind), ("events", .list (events.map eventDocument))])

/-- Obey the command of a request. -/
def obey (front : Front ρ φ) (a : Api) (r : ρ) : Command → Except φ (Api × Response)
  | .health => .ok (a, a.health)
  | .load path allFlows => a.load front r path allFlows
  | .close => .ok a.close
  | .calls sort descending => .ok (a.calls sort descending)
  | .activate id => .ok (a, a.activate id)
  | .filter selected => .ok (a, a.filter selected)
  | .sequence selected => .ok (a.sequence selected)

/-- Answer a request. -/
def handle (front : Front ρ φ) (a : Api) (r : ρ) : Except φ (Api × Response) :=
  match front.command r with
  | .error response => .ok (a, response)
  | .ok command => a.obey front r command

end Api

end VoipCalls.Http
