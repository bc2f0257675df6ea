import VoipCalls.Call.Order

/-!
# Calls with unchecked texts

A text that a host hands over may have been put together from numbers, and then hold halves of
surrogate pairs.  An `UncheckedCall` is a call with such texts, which are lists of points.  Its
cells are those of any call, and so is the comparison, except in one column: the keys of speakers
are made of bytes, and a text that holds half of a pair has none.  There `compareUnchecked` fails.

Of a payload only numbers and truth values are shown or compared, so that its texts need not be
told from checked ones.
-/

namespace VoipCalls

open Text (Point points)
open Text.Utf8 (EncodeFault)

/-- A normalised address whose name has not been checked. -/
inductive UncheckedAddress where
  | unset
  | ip (ip : Ip)
  | name (ps : List Point)
deriving DecidableEq

namespace UncheckedAddress

/-- What a cell shows of the address. -/
def text : UncheckedAddress → List Point
  | unset => []
  | ip i => points i.text.toList
  | name ps => ps

/-- What the address is ordered by, if its name has bytes. -/
def sortKey : UncheckedAddress → Except EncodeFault AddressKey
  | unset => .ok Address.unset.sortKey
  | ip i => .ok (Address.ip i).sortKey
  | name ps => (Text.Utf8.encodePoints ps).map fun bs => ⟨3, bs.length, bs⟩

end UncheckedAddress

/-- What is known about one call and shown of it, with texts that have not been checked. -/
structure UncheckedCall where
  callId : Int
  protocol : Protocol
  payload : Payload
  initialSpeaker : UncheckedAddress := .unset
  fromIdentity : List Point := []
  toIdentity : List Point := []
  start : Double := .zero
  stop : Double := .zero
  packetCount : Int := 0
  callState : CallState := .noState
  comment : List Point := []
  protocolName : Option (List Point) := none
deriving DecidableEq

namespace UncheckedCall

/-- The protocol as it is shown: a call of no particular protocol may carry a name of its own. -/
def protocolText (r : UncheckedCall) : List Point :=
  match r.protocol, r.protocolName with
  | .common, some name => if name.isEmpty then points r.protocol.text.toList else name
  | p, _ => points p.text.toList

/-- The comment as it is shown: what stands in its place, else the last comment. -/
def commentText (r : UncheckedCall) : List Point :=
  ((CallRecord.featureText? r.callState r.protocol r.payload).map fun s => points s.toList).getD
    r.comment

/-- The text of a cell. -/
def cell (r : UncheckedCall) (c : Column) (precision : Nat) : List Point :=
  match c with
  | .startTime => points (r.start.fixed precision).toList
  | .stopTime => points (r.stop.fixed precision).toList
  | .initialSpeaker => r.initialSpeaker.text
  | .fromIdentity => r.fromIdentity
  | .toIdentity => r.toIdentity
  | .protocol => r.protocolText
  | .packets => points (toString r.packetCount).toList
  | .state => points r.callState.text.toList
  | .comments => r.commentText

end UncheckedCall

/-- Lexicographic order of texts by the numbers of their points. -/
def comparePoints (ps qs : List Point) : Ordering :=
  compare (ps.map Point.toNat) (qs.map Point.toNat)

/-- The order of two calls in a column.  The texts of their cells may be given; a missing one is
rendered.  Speakers are compared by their bytes, the first speaker's before the second's. -/
def compareUnchecked (a b : UncheckedCall) (c : Column) (aText bText : Option (List Point))
    (precision : Nat) : Except EncodeFault Ordering :=
  match c with
  | .startTime => .ok ((a.start.order b.start).then (compare a.callId b.callId))
  | .stopTime => .ok ((a.stop.order b.stop).then (compare a.callId b.callId))
  | .initialSpeaker => do
    let k ← a.initialSpeaker.sortKey
    let l ← b.initialSpeaker.sortKey
    return k.order l
  | .packets => .ok (compare a.packetCount b.packetCount)
  | _ => .ok (comparePoints (aText.getD (a.cell c precision)) (bText.getD (b.cell c precision)))

/-- Whether a call comes before another in a column. -/
def uncheckedLess (a b : UncheckedCall) (c : Column) : Except EncodeFault Bool :=
  (compareUnchecked a b c none none defaultPrecision).map (· == .lt)

/-! ## Calls with checked texts -/

/-- The address, with its name as a text that may be broken. -/
def Address.unchecked : Address → UncheckedAddress
  | unset => .unset
  | ip i => .ip i
  | name s => .name (points s.toList)

/-- The call, with its texts as texts that may be broken. -/
def CallRecord.unchecked (r : CallRecord) : UncheckedCall where
  callId := r.callId
  protocol := r.protocol
  payload := r.payload
  initialSpeaker := r.initialSpeaker.unchecked
  fromIdentity := points r.fromIdentity.toList
  toIdentity := points r.toIdentity.toList
  start := r.start
  stop := r.stop
  packetCount := r.packetCount
  callState := r.callState
  comment := points r.comment.toList
  protocolName := r.protocolName.map fun s => points s.toList

end VoipCalls
