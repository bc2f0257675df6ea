import VoipCalls.Call.Key
import VoipCalls.Call.Payload

/-!
# Classification events

One packet's contribution to a call, as the dissection of a capture hands it over.  Nothing about
an event is checked yet: the frame, the time and the key may be missing, and the payload may belong
to another protocol.
-/

namespace VoipCalls

/-- A time as it is handed over: a whole number of seconds or a double. -/
inductive RawTime where
  | whole (n : Int)
  | real (x : Double)
deriving DecidableEq

/-- The time as a double; nothing when a whole number is too large for one. -/
def RawTime.toDouble? : RawTime → Option Double
  | .whole n => Double.ofInt? n
  | .real x => some x

/-- One packet's contribution to a call. -/
structure Event where
  protocol : Protocol
  frame : Option Int := none
  time : Option RawTime := none
  key : Option CorrelationKey := none
  src : RawAddress := .unset
  dst : RawAddress := .unset
  fromIdentity : Option String := none
  toIdentity : Option String := none
  callState : Option CallState := none
  comment : Option String := none
  protocolName : Option String := none
  payload : Option Payload := none
  method : Option String := none
  frameLabel : String := ""
deriving DecidableEq

/-- A text that may be missing, with nothing for a missing one. -/
def textOrEmpty (s : Option String) : String :=
  s.getD ""

/-- The first of two texts that may be missing or empty: the earlier one unless it is empty. -/
def firstFilled (known offered : String) : String :=
  if known.isEmpty then offered else known

/-- The later of two texts unless it is empty. -/
def lastFilled (known offered : String) : String :=
  if offered.isEmpty then known else offered

end VoipCalls
