import VoipCalls.Sequence
import VoipCalls.Store

/-!
# Filters by frame

The first form of a display filter lists the frames of the selected calls, in the order of the
index.  It is right for every protocol and may get long.

An event of a selected call that the store does not know contributes no clause, and is reported once
for each such call.

Frames are written out in decimal however large their numbers are: a bound on the digits of a number
that is written, which an interpreter may be configured with, is set aside.
-/

namespace VoipCalls

/-- Clauses joined by "or". -/
def disjunction (clauses : List String) : String :=
  " or ".intercalate clauses

/-- The clause that matches one frame. -/
def frameClause (frame : Int) : String :=
  s!"frame.number == {frame}"

/-- An event whose call the store does not know. -/
structure DanglingEvent where
  call : Int
  frame : Int
deriving DecidableEq

namespace DanglingEvent

/-- The wording of the report in the log. -/
def message (d : DanglingEvent) : String :=
  s!"Sequence event references unknown call conv_id={d.call} frame={d.frame}; " ++
    "excluded from filter"

/-- The wording of the warning to the caller. -/
def warning (d : DanglingEvent) : String :=
  s!"sequence event references unknown call {d.call}"

end DanglingEvent

/-- The events of the selected calls, in the order of the index. -/
def selectedEvents (selected : List Int) (x : SequenceIndex) : List SequenceEvent :=
  x.items.filter fun e => selected.contains e.call

/-- Whether a call counts as created: every call does when no store is given. -/
def knownIn (store : Option Store) (call : Int) : Bool :=
  match store with
  | none => true
  | some s => s.knows call

/-- The first of the given events for each call. -/
def firstOfEachCall : List Int → List SequenceEvent → List DanglingEvent
  | _, [] => []
  | reported, e :: es =>
    if reported.contains e.call then firstOfEachCall reported es
    else ⟨e.call, e.frame⟩ :: firstOfEachCall (e.call :: reported) es

/-- The filter that lists the frames of the selected calls. -/
def frameFilter (selected : List Int) (x : SequenceIndex) (store : Option Store) : String :=
  disjunction (((selectedEvents selected x).filter fun e => knownIn store e.call).map
    fun e => frameClause e.frame)

/-- The reports due when `frameFilter` is compiled. -/
def danglingEvents (selected : List Int) (x : SequenceIndex) (store : Option Store) :
    List DanglingEvent :=
  firstOfEachCall [] ((selectedEvents selected x).filter fun e => !knownIn store e.call)

end VoipCalls
