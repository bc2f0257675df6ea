import VoipCalls.Address.Basic
import VoipCalls.Sorting.Stable

/-!
# The sequence index

The events of all calls side by side, one for each packet that contributed to a call, for the flow
diagram.  Events are appended as they arrive; `sortStable` brings them into the order of their
frames, and does nothing while they are known to be in that order.  `showOnly` prepares the index
for the diagram of a selection.
-/

namespace VoipCalls

/-- A packet of a call in the flow diagram. -/
structure SequenceEvent where
  call : Int
  frame : Int
  display : Bool := true
  time : Double := .zero
  src : RawAddress := .unset
  dst : RawAddress := .unset
  frameLabel : String := ""
  comment : String := ""
deriving DecidableEq

/-- The kind of analysis that the diagram is drawn for. -/
def voipAnalysis : String := "voip"

/-- The events of all calls. -/
structure SequenceIndex where
  items : List SequenceEvent := []
  inOrder : Bool := true
  analysisType : String := voipAnalysis
deriving DecidableEq

namespace SequenceIndex

/-- The number of events. -/
def size (x : SequenceIndex) : Nat :=
  x.items.length

/-- Append an event.  One of an earlier frame than the last event breaks the order. -/
def append (x : SequenceIndex) (e : SequenceEvent) : SequenceIndex :=
  let ordered :=
    match x.items.getLast? with
    | some last => x.inOrder && decide (last.frame ≤ e.frame)
    | none => x.inOrder
  { x with items := x.items ++ [e], inOrder := ordered }

/-- Bring the events into the order of their frames; events of one frame keep their order. -/
def sortStable (x : SequenceIndex) : SequenceIndex :=
  if x.inOrder then x
  else
    { x with
      items := Sorting.stableSort (fun a b => decide (a.frame < b.frame)) x.items
      inOrder := true }

/-- Show the events of the calls that satisfy a predicate, and no others. -/
def setVisibility (x : SequenceIndex) (shown : Int → Bool) : SequenceIndex :=
  { x with items := x.items.map fun e => { e with display := shown e.call } }

/-- The events that are shown. -/
def visible (x : SequenceIndex) : List SequenceEvent :=
  x.items.filter (·.display)

/-- Forget all events. -/
def clear (x : SequenceIndex) : SequenceIndex :=
  { x with items := [], inOrder := true }

end SequenceIndex

/-- What the flow diagram of a selection is told.  The diagram draws the index of the session
itself, so that it also shows what is appended afterwards. -/
structure Handoff where
  analysisType : String
  selected : List Int
deriving DecidableEq

namespace SequenceIndex

/-- Bring the index into frame order and show the selected calls. -/
def showOnly (x : SequenceIndex) (selected : List Int) : SequenceIndex :=
  x.sortStable.setVisibility selected.contains

/-- What the flow diagram of a selection is told. -/
def handoff (x : SequenceIndex) (selected : List Int) : Handoff :=
  ⟨x.analysisType, selected⟩

end SequenceIndex

end VoipCalls
