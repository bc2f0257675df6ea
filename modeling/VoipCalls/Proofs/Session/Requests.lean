import VoipCalls.Proofs.Session.Redraw

/-!
# Requests to a session

A host does not only operate a session, it also asks questions and hears the answers.  A
`Session.Request` is anything a host may ask, `Session.respond` is what it hears, and
`Session.serve` is the session afterwards.  What a host hears of several requests are the
`Session.responses`.

Two runs that are compared in this way can be told apart by nothing: a `Session.Response` holds the
value that is returned, the calls of the hooks and the alerts, and the session itself holds
everything that can be looked up.
-/

namespace VoipCalls

namespace Session

/-! ## What a host may ask, and what it hears -/

/-- What a host may ask of a session: an operation, another choice of flows, or a question. -/
inductive Request where
  | operation (op : Operation)
  | chooseFlows (flowShow : FlowShow)
  | title
  | selectAll
  | actionsEnabled (selected : List Int)
deriving DecidableEq

/-- The value that a request returns. -/
inductive Answer where
  | done
  | verdict (v : Verdict)
  | drawn (due : Bool)
  | rows (presented : List Row)
  | frame (number : Option Int)
  | text (s : String)
  | handoff (h : Option Handoff)
  | calls (ids : List Int)
  | actions (a : Actions)
deriving DecidableEq

/-- What a host hears of a request. -/
structure Response where
  answer : Answer
  hooks : List Hook := []
  alerts : List Alert := []
deriving DecidableEq

/-- What a host hears of a reply. -/
def heard {α : Type} (returned : α → Answer) (r : Reply α) : Response :=
  ⟨returned r.value, r.hooks, r.alerts⟩

/-- The session after a choice of flows. -/
def chooseFlows (s : Session) (flowShow : FlowShow) : Session :=
  { s with intake := { s.intake with tap := { s.intake.tap with flowShow } } }

/-- The session after a request. -/
def serve (s : Session) : Request → Session
  | .operation op => s.perform op
  | .chooseFlows flowShow => s.chooseFlows flowShow
  | .title | .selectAll | .actionsEnabled _ => s

/-- What a host hears of a request. -/
def respond (s : Session) : Request → Response
  | .operation (.packet e) => heard .verdict (s.packet e)
  | .operation .draw => heard .drawn s.draw
  | .operation .refresh => { answer := .rows s.refresh.table.presented }
  | .operation (.activate id) => heard .frame (s.activate id)
  | .operation (.prepareFilter selected) => heard .text (s.prepareFilter selected)
  | .operation (.showSequence selected) => heard .handoff (s.showSequence selected)
  | .operation (.sortBy c descending) =>
    { answer := .rows (s.sortBy c descending).table.presented }
  | .operation _ => { answer := .done }
  | .chooseFlows _ => { answer := .done }
  | .title => { answer := .text s.title }
  | .selectAll => { answer := .calls s.selectAll }
  | .actionsEnabled selected => { answer := .actions (s.actionsEnabled selected) }

/-- The session after some requests. -/
def serveAll (s : Session) (qs : List Request) : Session :=
  qs.foldl serve s

/-- What a host hears of some requests. -/
def responses (s : Session) : List Request → List Response
  | [] => []
  | q :: qs => s.respond q :: (s.serve q).responses qs

/-! ## Runs -/

/-- What every request keeps of a session, all requests keep. -/
theorem serveAll_induction {motive : Session → Prop} {qs : List Request} {s : Session}
    (start : motive s) (step : ∀ t q, q ∈ qs → motive t → motive (t.serve q)) :
    motive (s.serveAll qs) := by
  induction qs generalizing s with
  | nil => exact start
  | cons q qs ih =>
    have hnext : motive (s.serve q) := step s q List.mem_cons_self start
    exact ih hnext fun t q' hq' => step t q' (List.mem_cons_of_mem _ hq')

end Session

end VoipCalls
