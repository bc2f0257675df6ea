import VoipCalls.Attempt
import VoipCalls.Call.Record

/-!
# The call store

The store holds the records of all calls of a capture, in the order of creation, twice.  The
*working* records are revised in place as packets arrive; the *published* records are what readers
see.  Inside a batch the published records stand still, and on leaving the outermost batch they
catch up: the calls created since are appended and the calls revised since (`dirty`) are copied.

Calls are numbered by a counter, and an index leads from a number to the record, which is the one
that stands among the working records and no copy of it.  That the three are in step is nothing that
the store looks after: it follows from what the operations do (`Store.Sound`).

Storing an event is an `Attempt`: an event that cannot be stored is refused with a cause, and what
was written before that stays written.
-/

namespace VoipCalls

/-- Why an event cannot be attached to a call. -/
inductive Malformed where
  | noFrameOrTime
  | noKey
  | unknownCall (id : Int)
  | protocolMismatch (id : Int) (record event : Protocol)
  | payloadMismatch (id : Int)
  | foreignPayload (payload : PayloadKind) (protocol : Protocol)
deriving DecidableEq

/-- The wording of a cause. -/
def Malformed.message : Malformed → String
  | noFrameOrTime => "classification event has no frame number or timestamp"
  | noKey => "classification event has no correlation key"
  | unknownCall id => s!"unknown call_id={id}"
  | protocolMismatch id record event =>
    s!"protocol mismatch call_id={id} record={record.text} event={event.text}"
  | payloadMismatch id => s!"payload type mismatch call_id={id}"
  | foreignPayload payload protocol =>
    s!"payload {payload.text} does not match protocol {protocol.text}"

/-- What a missing value was to be read as. -/
inductive NumberKind where
  | whole
  | real
deriving DecidableEq

/-- Why an event is not taken: it is malformed, its time is a whole number beyond the range of
doubles, or a value that is missing was to be read as a number. -/
inductive Refusal where
  | malformed (cause : Malformed)
  | timeOverflow
  | missingNumber (kind : NumberKind)
deriving DecidableEq

/-- The wording of a refusal. -/
def Refusal.message : Refusal → String
  | malformed cause => cause.message
  | timeOverflow => "int too large to convert to float"
  | missingNumber .whole =>
    "int() argument must be a string, a bytes-like object or a real number, not 'NoneType'"
  | missingNumber .real => "float() argument must be a string or a real number, not 'NoneType'"

/-- Read a time as a double. -/
def RawTime.read {σ : Type} (time : RawTime) : Attempt Refusal σ Double :=
  match time.toDouble? with
  | some seconds => pure seconds
  | none => throw .timeOverflow

/-- The records of the calls of a capture.  `places` leads from the number of a call to the place of
its record among the working ones, the last entry for a number first. -/
structure Store where
  working : List CallRecord := []
  places : List (Int × Nat) := []
  nextId : Nat := 0
  depth : Nat := 0
  dirty : List Int := []
  published : List CallRecord := []
deriving DecidableEq

namespace Store

/-- The number of calls that readers see. -/
def size (s : Store) : Nat :=
  s.published.length

/-- Whether a batch is open. -/
def inBatch (s : Store) : Bool :=
  0 < s.depth

/-- The working record of a call, by the index. -/
def find? (s : Store) (id : Int) : Option CallRecord :=
  (s.places.lookup id).bind fun place => s.working[place]?

/-- Whether a call was created, be it published yet or not. -/
def knows (s : Store) (id : Int) : Bool :=
  (s.places.lookup id).isSome

/-- The published record of a call. -/
def get? (s : Store) (id : Int) : Option CallRecord :=
  if 0 ≤ id then s.published[id.toNat]? else none

/-- Replace the published record of a call by its working record. -/
def republish (s : Store) (published : List CallRecord) (id : Int) : List CallRecord :=
  match s.find? id with
  | some r => published.set id.toNat r
  | none => published

/-- Let readers see the working records: append the new ones and copy the dirty ones. -/
def publish (s : Store) : Store :=
  if s.dirty.isEmpty && s.published.length == s.working.length then s
  else
    let fresh := s.working.drop s.published.length
    let stale := s.dirty.filter fun id => !fresh.any fun r => r.callId == id
    { s with
      dirty := []
      published := stale.foldl s.republish (s.published ++ fresh) }

/-- Publish unless a batch is open. -/
def settle (s : Store) : Store :=
  if s.inBatch then s else s.publish

/-- Open a batch. -/
def enter (s : Store) : Store :=
  { s with depth := s.depth + 1 }

/-- Leave a batch; leaving the outermost one publishes. -/
def leave (s : Store) : Store :=
  let s' := { s with depth := s.depth - 1 }
  s'.settle

/-- Note that the working record of a call has changed. -/
def marked (s : Store) (id : Int) : Store :=
  { s with dirty := if s.dirty.contains id then s.dirty else s.dirty ++ [id] }

/-- Count a new call. -/
def counted (s : Store) : Store :=
  { s with nextId := s.nextId + 1 }

/-- Append a working record. -/
def append (s : Store) (r : CallRecord) : Store :=
  { s with working := s.working ++ [r] }

/-- Let the index lead from a number to the record that was appended last. -/
def indexed (s : Store) (id : Int) : Store :=
  { s with places := (id, s.working.length - 1) :: s.places }

/-- Write the record of a call anew, where the index finds it. -/
def replace (s : Store) (id : Int) (r : CallRecord) : Store :=
  match s.places.lookup id with
  | some place => { s with working := s.working.set place r }
  | none => s

/-- Open a call with its first event. -/
def create (e : Event) (frame : Int) (time : RawTime) : Attempt Refusal Store CallRecord := do
  let payload := e.payload.getD e.protocol.emptyPayload
  if payload.kind ≠ e.protocol.payloadKind then
    throw (.malformed (.foreignPayload payload.kind e.protocol))
  else
    let s ← get
    let seconds ← time.read
    let r := CallRecord.opened s.nextId e frame seconds
    modify counted
    modify (·.append r)
    modify (·.indexed r.callId)
    return r

/-- Whether the payload of an event is of another kind than a record's. -/
def payloadClashes (r : CallRecord) (e : Event) : Bool :=
  match e.payload with
  | none => false
  | some p => p.kind != r.payload.kind

/-- Revise the record of a call by a further event. -/
def revise (e : Event) (id frame : Int) (time : RawTime) : Attempt Refusal Store CallRecord := do
  let s ← get
  match s.find? id with
  | none => throw (.malformed (.unknownCall id))
  | some r =>
    if r.protocol ≠ e.protocol then
      throw (.malformed (.protocolMismatch id r.protocol e.protocol))
    else if payloadClashes r e then throw (.malformed (.payloadMismatch id))
    else
      let seconds ← time.read
      let revised := r.revised e frame seconds
      modify (·.replace id revised)
      return revised

/-- Write an event into the working records, as a new call without `id?` and else for the call of
that number, and note the change.  The answer is the number of the call. -/
def place (e : Event) (id? : Option Int) : Attempt Refusal Store Int :=
  match e.frame, e.time with
  | some frame, some time => do
    let r ←
      match id? with
      | none => create e frame time
      | some id => revise e id frame time
    modify (·.marked r.callId)
    return r.callId
  | _, _ => throw (.malformed .noFrameOrTime)

/-- Store an event, and publish unless a batch is open. -/
def enroll (e : Event) (id? : Option Int) : Attempt Refusal Store Int := do
  let id ← place e id?
  modify settle
  return id

/-- The store after an event, next to the number of its call or the reason why it was refused. -/
def upsert (s : Store) (e : Event) (id? : Option Int) : Except Refusal Int × Store :=
  (enroll e id?).outcome s

/-- Forget all calls.  An open batch stays open. -/
def clear (s : Store) : Store :=
  { s with working := [], places := [], nextId := 0, dirty := [], published := [] }

/-- The published records from a place on; a negative place counts from the end. -/
def snapshotFrom (s : Store) (start : Int) : List CallRecord :=
  s.published.drop (if 0 ≤ start then start.toNat else s.published.length - start.natAbs)

end Store

end VoipCalls
