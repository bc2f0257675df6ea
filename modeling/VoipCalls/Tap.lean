import VoipCalls.Call.Event
import VoipCalls.Text.Case

/-!
# The tap

The tap is what is remembered about the classification events of a capture: which call belongs to
which correlation key, which packets were taken already, how many events were dropped or ignored,
and whether the table has to be redrawn.
-/

namespace VoipCalls

/-- Which SIP dialogs are listed. -/
inductive FlowShow where
  | onlyInvites
  | all
deriving DecidableEq, Repr

/-- A packet that the tap has taken: its protocol, correlation key and frame. -/
structure SeenPacket where
  protocol : Protocol
  key : CorrelationKey
  frame : Int
deriving DecidableEq

/-- The call of a correlation key. -/
structure KeyEntry where
  protocol : Protocol
  key : CorrelationKey
  call : Int
deriving DecidableEq

/-- The state of the tap. -/
structure Tap where
  flowShow : FlowShow := .onlyInvites
  keys : List KeyEntry := []
  seen : List SeenPacket := []
  attached : Bool := true
  redraw : Bool := false
  malformed : Nat := 0
  ignored : Nat := 0
deriving DecidableEq

namespace Tap

/-- The call that a key was registered for. -/
def callFor (t : Tap) (p : Protocol) (k : CorrelationKey) : Option Int :=
  (t.keys.find? fun entry => decide (entry.protocol = p) && entry.key.agrees k).map (·.call)

/-- Whether a packet was taken already. -/
def hasSeen (t : Tap) (p : Protocol) (k : CorrelationKey) (frame : Int) : Bool :=
  t.seen.any fun s => decide (s.protocol = p) && s.key.agrees k && decide (s.frame = frame)

/-- Whether an event may open a call: for SIP only an INVITE may, unless all flows are listed. -/
def opensCall (t : Tap) (e : Event) : Bool :=
  decide (e.protocol ≠ .sip) || decide (t.flowShow = .all) ||
    Text.toUpper (textOrEmpty e.method) == "INVITE"

/-- Register a call for a key. -/
def register (t : Tap) (p : Protocol) (k : CorrelationKey) (call : Int) : Tap :=
  { t with keys := t.keys ++ [⟨p, k, call⟩] }

/-- Remember that a packet was taken. -/
def see (t : Tap) (p : Protocol) (k : CorrelationKey) (frame : Int) : Tap :=
  { t with seen := if t.hasSeen p k frame then t.seen else t.seen ++ [⟨p, k, frame⟩] }

/-- Remember that the table has to be redrawn. -/
def outdate (t : Tap) : Tap :=
  { t with redraw := true }

/-- Detach the tap from the capture. -/
def detach (t : Tap) : Tap :=
  { t with attached := false, redraw := false }

/-- Attach the tap to a new capture.  The choice of flows stays. -/
def reset (t : Tap) : Tap :=
  { flowShow := t.flowShow }

end Tap

end VoipCalls
