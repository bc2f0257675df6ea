import VoipCalls.Call.Event
import VoipCalls.Capture.Packet
import VoipCalls.Sip.Message
import VoipCalls.Sip.StartLine
import VoipCalls.Text.Utf8

/-!
# SIP in a capture

`Sip.events` turns the packets of a capture into classification events, one for each packet that
carries a SIP message.  Frames are counted from one over all packets, and times from the first
packet of any kind.
-/

namespace VoipCalls.Sip

/-- The comment of a message. -/
def commentOf (l : StartLine) : String :=
  if l.isRequest then "SIP Request" else "SIP Status"

/-- The event of a SIP message, if its start line is a request or has a status code. -/
def messageEvent? (frame : Nat) (time : Double) (ends : PacketEnds) (m : Message) :
    Option Event :=
  let l := StartLine.ofText m.startLine
  if !l.isRequest && l.status.isNone then none
  else
    let callId := m.headerOr? "call-id" "i"
    let (number, answered) := readCseq (m.header? "cseq")
    some
      { protocol := .sip
        frame := some frame
        time := some (.real time)
        key := callId.map .text
        src := .text ends.src
        dst := .text ends.dst
        fromIdentity := identity? (m.headerOr? "from" "f")
        toIdentity := identity? (m.headerOr? "to" "t")
        callState := l.callState answered
        comment := some (commentOf l)
        payload :=
          some (.sip
            { callIdentifier := callId
              inviteCseq :=
                if l.isRequest && l.method == some "INVITE" then number else none })
        method := if l.isRequest then l.method else none
        frameLabel := l.label (Text.occursIn "m=".toList m.body.toList) }

/-- The event of a packet, if it carries a SIP message; `first` is the time of the first packet. -/
def packetEvent? (first : Double) (frame : Nat) (p : Packet) : Option Event :=
  match p.ends with
  | none => none
  | some ends =>
    let text := Text.Utf8.decodeLossy p.payload
    if Text.occursIn version.toList text then
      messageEvent? frame (p.time.sub first) ends (Message.ofUnified (Text.unifyBreaks text))
    else none

/-- The classification events of a capture. -/
def events (packets : List Packet) : List Event :=
  match packets with
  | [] => []
  | p :: _ => (packets.mapIdx fun i q => packetEvent? p.time (i + 1) q).filterMap id

end VoipCalls.Sip
