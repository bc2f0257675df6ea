import VoipCalls.Filter.Fields
import VoipCalls.Intake

/-!
# What the host of a session hears

The host is told of a redraw, of a frame to go to, of a filter and of a flow sequence that are ready
(`Hook`), and of events that were dropped or left out (`Alert`).
-/

namespace VoipCalls

/-- What a session asks of its host. -/
inductive Hook where
  | redraw (rows : Nat)
  | goToFrame (frame : Int)
  | filterReady (filter : String)
  | sequenceReady (h : Handoff)
deriving DecidableEq

/-- What a session reports as being wrong with its input. -/
inductive Alert where
  | dropped (frame : Option Int) (protocol : Protocol) (cause : Malformed)
  | dangling (event : DanglingEvent)
deriving DecidableEq

/-- The wording of an alert in the log. -/
def Alert.message : Alert → String
  | dropped frame protocol cause =>
    s!"Dropped malformed classification event frame={frameText frame} " ++
      s!"protocol={protocol.text} error={cause.message}"
  | dangling event => event.message

/-- The warning to the caller that goes with an alert. -/
def Alert.warning? : Alert → Option String
  | dropped .. => none
  | dangling event => some event.warning

/-- What is reported about an event that the tap has judged. -/
def alertsOf (e : Event) : Verdict → List Alert
  | .malformed cause => [.dropped e.frame e.protocol cause]
  | _ => []

end VoipCalls
