import VoipCalls.Call.Event

/-!
# Call records

What is known about one call.  A record is opened by its first event (`CallRecord.opened`) and then
revised by each later one (`CallRecord.revised`).  The opening event fixes the speaker and the
start; later events move the end of the call forward, fill in what is still missing, replace the
comment, and merge their payload.

Point codes are written out in decimal however large they are: a bound on the digits of a number
that is written, which an interpreter may be configured with, is set aside.
-/

namespace VoipCalls

/-- What is known about one call. -/
structure CallRecord where
  callId : Int
  protocol : Protocol
  payload : Payload
  initialSpeaker : Address := .unset
  fromIdentity : String := ""
  toIdentity : String := ""
  start : Double := .zero
  stop : Double := .zero
  packetCount : Int := 0
  callState : CallState := .noState
  comment : String := ""
  startFrame : Option Int := none
  stopFrame : Option Int := none
  protocolName : Option String := none
deriving DecidableEq

namespace CallRecord

/-- The protocol as it is shown: a call of no particular protocol may carry a name of its own. -/
def protocolText (r : CallRecord) : String :=
  match r.protocol, r.protocolName with
  | .common, some name => if name.isEmpty then r.protocol.text else name
  | p, _ => p.text

/-- How a feature is shown. -/
def onOff (b : Bool) : String :=
  if b then "On" else "Off"

/-- Whether an H.323 call uses fast start: it was asked for, and, once the call is past its setup,
also answered. -/
def fastStart (state : CallState) (info : H323Info) : Bool :=
  info.isFaststartSetup.getD false &&
    (decide (state = .callSetup) || info.isFaststartProc.getD false)

/-- What is shown in place of a comment: point codes for ISUP and features for H.323. -/
def featureText? (state : CallState) : Protocol → Payload → Option String
  | .isup, .isup info =>
    match info.ni, info.opc, info.dpc with
    | some ni, some opc, some dpc => some s!"{ni}-{opc} → {ni}-{dpc}"
    | _, _, _ => some ""
  | .h323, .h323 info =>
    let tunneling := onOff (info.isH245Tunneling.getD false)
    some s!"Tunneling: {tunneling}  Fast Start: {onOff (fastStart state info)}"
  | _, _ => none

/-- The comment as it is shown: what stands in its place, else the last comment. -/
def commentText (r : CallRecord) : String :=
  (featureText? r.callState r.protocol r.payload).getD r.comment

/-- The record of a call's first event. -/
def opened (id : Int) (e : Event) (frame : Int) (time : Double) : CallRecord where
  callId := id
  protocol := e.protocol
  payload := e.payload.getD e.protocol.emptyPayload
  initialSpeaker := Address.ofRaw e.src
  fromIdentity := textOrEmpty e.fromIdentity
  toIdentity := textOrEmpty e.toIdentity
  start := time
  stop := time
  packetCount := 1
  callState := e.callState.getD .noState
  comment := textOrEmpty e.comment
  startFrame := some frame
  stopFrame := some frame
  protocolName := e.protocolName

/-- The record after a further event of the call. -/
def revised (r : CallRecord) (e : Event) (frame : Int) (time : Double) : CallRecord :=
  { r with
    stop := if r.stop.le time then time else r.stop
    stopFrame := if r.stop.le time then some frame else r.stopFrame
    packetCount := r.packetCount + 1
    callState := r.callState.next e.callState
    fromIdentity := firstFilled r.fromIdentity (textOrEmpty e.fromIdentity)
    toIdentity := firstFilled r.toIdentity (textOrEmpty e.toIdentity)
    comment := lastFilled r.comment (textOrEmpty e.comment)
    protocolName :=
      if (textOrEmpty r.protocolName).isEmpty && !(textOrEmpty e.protocolName).isEmpty then
        e.protocolName
      else r.protocolName
    payload :=
      match e.payload with
      | none => r.payload
      | some offered => r.payload.merge offered }

end CallRecord

end VoipCalls
