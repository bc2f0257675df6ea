/-!
# Signalling protocols and call states

The protocols that a call may be carried by, and the states it passes through.  `CallState.next` is
the whole transition rule: a call that has ended does not come back to life, and a setup that was
cancelled is not turned into a rejected one by its final error response.
-/

namespace VoipCalls

/-- The signalling protocol of a call. -/
inductive Protocol where
  | sip | isup | h323 | mgcp | acIsdn | acCas | t38 | h248 | sccp | unistim | skinny | iax2 | common
deriving DecidableEq, Repr

/-- The name a protocol is shown under. -/
def Protocol.text : Protocol → String
  | sip => "SIP"
  | isup => "ISUP"
  | h323 => "H.323"
  | mgcp => "MGCP"
  | acIsdn => "AC_ISDN"
  | acCas => "AC_CAS"
  | t38 => "T.38"
  | h248 => "H.248"
  | sccp => "SCCP"
  | unistim => "UNISTIM"
  | skinny => "SKINNY"
  | iax2 => "IAX2"
  | common => "VoIP"

/-- The state of a call. -/
inductive CallState where
  | noState | callSetup | ringing | inCall | cancelled | completed | rejected | unknown
deriving DecidableEq, Repr

namespace CallState

/-- All states, in their order. -/
def all : List CallState :=
  [noState, callSetup, ringing, inCall, cancelled, completed, rejected, unknown]

/-- The words a state is shown as. -/
def text : CallState → String
  | noState => ""
  | callSetup => "CALL SETUP"
  | ringing => "RINGING"
  | inCall => "IN CALL"
  | cancelled => "CANCELLED"
  | completed => "COMPLETED"
  | rejected => "REJECTED"
  | unknown => "UNKNOWN"

/-- The states in which a call has ended. -/
def isTerminal : CallState → Bool
  | cancelled | completed | rejected => true
  | _ => false

/-- The state after a packet that proposes a state, or proposes none.  A terminal state gives way
to terminal states only, and a cancelled call stays cancelled when it is rejected. -/
def next (current : CallState) : Option CallState → CallState
  | none => current
  | some proposed =>
    if current.isTerminal && !proposed.isTerminal then current
    else if current = cancelled ∧ proposed = rejected then current
    else proposed

end CallState

end VoipCalls
