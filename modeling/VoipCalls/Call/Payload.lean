import VoipCalls.Call.Key
import VoipCalls.Call.Protocol

/-!
# Correlation payloads

What a protocol knows about a call beyond the common fields: the identifiers by which its packets
are told apart.  A payload is merged into the payload of the same kind that a call already has;
`Payload.merge` overwrites a field by every value that is present, and collects the H.245 addresses
without repetition.
-/

namespace VoipCalls

/-- Identifiers of a SIP dialog. -/
structure SipInfo where
  callIdentifier : Option String := none
  inviteCseq : Option Int := none
deriving DecidableEq

/-- Identifiers of an ISUP circuit. -/
structure IsupInfo where
  cic : Option Int := none
  ni : Option Int := none
  opc : Option Int := none
  dpc : Option Int := none
deriving DecidableEq

/-- A TCP endpoint that H.245 was opened on. -/
structure H245Endpoint where
  address : RawAddress
  tcpPort : Int
deriving DecidableEq

/-- Whether two endpoints are the same value, whatever kind of number their addresses were written
with. -/
def H245Endpoint.agrees (e f : H245Endpoint) : Bool :=
  e.address.key.equals f.address.key && e.tcpPort == f.tcpPort

/-- Identifiers and features of an H.323 call. -/
structure H323Info where
  guid : Option String := none
  q931Crv : Option Int := none
  q931Crv2 : Option Int := none
  isH245Tunneling : Option Bool := none
  isFaststartSetup : Option Bool := none
  isFaststartProc : Option Bool := none
  h245Addresses : List H245Endpoint := []
deriving DecidableEq

/-- Identifier of an H.248 context. -/
structure H248Info where
  contextId : Option Int := none
deriving DecidableEq

/-- The kinds of payload. -/
inductive PayloadKind where
  | common | sip | isup | h323 | h248
deriving DecidableEq, Repr

/-- The name of a kind in error texts. -/
def PayloadKind.text : PayloadKind → String
  | common => "CommonInfo"
  | sip => "SipInfo"
  | isup => "IsupInfo"
  | h323 => "H323Info"
  | h248 => "H248Info"

/-- What a protocol knows about a call. -/
inductive Payload where
  | common
  | sip (info : SipInfo)
  | isup (info : IsupInfo)
  | h323 (info : H323Info)
  | h248 (info : H248Info)
deriving DecidableEq

/-- The kind of payload that belongs to a protocol. -/
def Protocol.payloadKind : Protocol → PayloadKind
  | .sip => .sip
  | .isup => .isup
  | .h323 => .h323
  | .h248 => .h248
  | _ => .common

/-- A later value if there is one, else the value so far. -/
def lastKnown {α : Type} (known : Option α) : Option α → Option α
  | some v => some v
  | none => known

/-- Add an endpoint at the end of a list unless it is there already. -/
def addNew (known : List H245Endpoint) (e : H245Endpoint) : List H245Endpoint :=
  if known.any (·.agrees e) then known else known ++ [e]

namespace Payload

/-- The kind of a payload. -/
def kind : Payload → PayloadKind
  | common => .common
  | sip _ => .sip
  | isup _ => .isup
  | h323 _ => .h323
  | h248 _ => .h248

/-- The payload of a kind in which nothing is known. -/
def empty : PayloadKind → Payload
  | .common => common
  | .sip => sip {}
  | .isup => isup {}
  | .h323 => h323 {}
  | .h248 => h248 {}

/-- The payload with everything added that a later payload of the same kind knows.  A payload of
another kind changes nothing. -/
def merge : Payload → Payload → Payload
  | sip a, sip b =>
    sip ⟨lastKnown a.callIdentifier b.callIdentifier, lastKnown a.inviteCseq b.inviteCseq⟩
  | isup a, isup b =>
    isup ⟨lastKnown a.cic b.cic, lastKnown a.ni b.ni, lastKnown a.opc b.opc, lastKnown a.dpc b.dpc⟩
  | h323 a, h323 b =>
    h323
      { guid := lastKnown a.guid b.guid
        q931Crv := lastKnown a.q931Crv b.q931Crv
        q931Crv2 := lastKnown a.q931Crv2 b.q931Crv2
        isH245Tunneling := lastKnown a.isH245Tunneling b.isH245Tunneling
        isFaststartSetup := lastKnown a.isFaststartSetup b.isFaststartSetup
        isFaststartProc := lastKnown a.isFaststartProc b.isFaststartProc
        h245Addresses := b.h245Addresses.foldl addNew a.h245Addresses }
  | h248 a, h248 b => h248 ⟨lastKnown a.contextId b.contextId⟩
  | a, _ => a

/-- A new payload of a kind knows nothing else. -/
@[simp] theorem kind_empty (k : PayloadKind) : (empty k).kind = k := by
  cases k <;> rfl

/-- Merging keeps the kind. -/
@[simp] theorem kind_merge (a b : Payload) : (a.merge b).kind = a.kind := by
  cases a <;> cases b <;> rfl

end Payload

/-- The payload a call of a protocol has before anything is known about it. -/
def Protocol.emptyPayload (p : Protocol) : Payload :=
  Payload.empty p.payloadKind

end VoipCalls
