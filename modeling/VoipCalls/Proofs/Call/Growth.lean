import Mathlib.Data.List.Induction
import Mathlib.Tactic.Lemma
import VoipCalls.Call.Record

/-!
# The record of a list of events

A record grows by one event at a time: the first event opens it and every other one revises it.
`CallRecord.ofEvents` is the record that a whole list of events amounts to, and nothing else about a
call is ever kept.

An event can be stored in a call of its protocol exactly if it has a frame, a time that a double can
hold, and a payload of the protocol's kind or none (`Event.isStorable`).  For such events the kind
of a record's payload is that of its protocol (`CallRecord.kind_ofEvents`).
-/

namespace VoipCalls

/-! ## The parts of an event that a call is built from -/

namespace Event

/-- The frame of an event that has one. -/
def frameNumber (e : Event) : Int :=
  e.frame.getD 0

/-- The time of an event, for one that a double can hold. -/
def seconds (e : Event) : Double :=
  (e.time.bind RawTime.toDouble?).getD .zero

/-- Whether an event has a frame, a time that a double can hold, and no payload of a kind that is
foreign to its protocol. -/
def isStorable (e : Event) : Bool :=
  e.frame.isSome && (e.time.bind RawTime.toDouble?).isSome &&
    decide ((e.payload.getD e.protocol.emptyPayload).kind = e.protocol.payloadKind)

/-- An event can be stored exactly if it has a frame, a time that a double can hold, and a payload
of the right kind or none. -/
lemma isStorable_iff {e : Event} : e.isStorable = true ↔
    (∃ frame, e.frame = some frame) ∧ (∃ raw time, e.time = some raw ∧ raw.toDouble? = some time) ∧
      (e.payload.getD e.protocol.emptyPayload).kind = e.protocol.payloadKind := by
  cases hf : e.frame <;> cases ht : e.time <;>
    simp [isStorable, hf, ht, Option.isSome_iff_exists]

end Event

namespace CallRecord

/-- The record that an event opens. -/
def openedBy (id : Int) (e : Event) : CallRecord :=
  opened id e e.frameNumber e.seconds

/-- The record after a further event. -/
def revisedBy (r : CallRecord) (e : Event) : CallRecord :=
  r.revised e e.frameNumber e.seconds

@[simp] lemma callId_openedBy (id : Int) (e : Event) : (openedBy id e).callId = id := rfl

@[simp] lemma callId_revisedBy (r : CallRecord) (e : Event) : (r.revisedBy e).callId = r.callId :=
  rfl

@[simp] lemma protocol_revisedBy (r : CallRecord) (e : Event) :
    (r.revisedBy e).protocol = r.protocol := rfl

/-- A revision keeps the kind of the payload. -/
@[simp] lemma kind_revisedBy (r : CallRecord) (e : Event) :
    (r.revisedBy e).payload.kind = r.payload.kind := by
  unfold revisedBy revised
  cases e.payload <;> simp

/-- The same record under another number. -/
def renumbered (r : CallRecord) (id : Int) : CallRecord :=
  { r with callId := id }

/-! ## The record of a list of events -/

/-- The record that the first of some events opens and the others revise. -/
def ofEvents (id : Int) : List Event → Option CallRecord
  | [] => none
  | e :: es => some (es.foldl revisedBy (openedBy id e))

/-- One more event opens the record or revises it. -/
lemma ofEvents_concat (id : Int) (es : List Event) (e : Event) :
    ofEvents id (es ++ [e]) =
      some (((ofEvents id es).map fun r => r.revisedBy e).getD (openedBy id e)) := by
  cases es with
  | nil => rfl
  | cons first rest => simp [ofEvents]

lemma ofEvents_eq_none {id : Int} {es : List Event} : ofEvents id es = none ↔ es = [] := by
  cases es <;> simp [ofEvents]

/-- A property of the records of a list of events follows if the first event establishes it and
each further event keeps it. -/
theorem ofEvents_induction {id : Int}
    {motive : (es : List Event) → (r : CallRecord) → ofEvents id es = some r → Prop}
    (first : ∀ e, motive [e] (openedBy id e) rfl)
    (next : ∀ es r e (h : ofEvents id es = some r), motive es r h →
      motive (es ++ [e]) (r.revisedBy e) (by rw [ofEvents_concat, h]; rfl)) :
    ∀ {es r} (h : ofEvents id es = some r), motive es r h := by
  intro es
  induction es using List.reverseRecOn with
  | nil =>
    intro r hr
    cases hr
  | append_singleton es e ih =>
    intro r hr
    have hstep := hr
    rw [ofEvents_concat, Option.some_inj] at hstep
    cases hes : ofEvents id es with
    | none =>
      obtain rfl := ofEvents_eq_none.mp hes
      obtain rfl : openedBy id e = r := hstep
      exact first e
    | some r₀ =>
      rw [hes] at hstep
      obtain rfl : r₀.revisedBy e = r := hstep
      exact next es r₀ e hes (ih hes)

/-- The record carries the number it was opened under. -/
lemma callId_ofEvents {id : Int} {es : List Event} {r : CallRecord} (h : ofEvents id es = some r) :
    r.callId = id := by
  induction h using ofEvents_induction with
  | first e => rfl
  | next es r e _ ih => exact ih

/-- The record counts the events. -/
lemma packetCount_ofEvents {id : Int} {es : List Event} {r : CallRecord}
    (h : ofEvents id es = some r) : r.packetCount = es.length := by
  induction h using ofEvents_induction with
  | first e => rfl
  | next es r e _ ih =>
    change r.packetCount + 1 = _
    rw [ih, List.length_append]
    rfl

/-- The protocol of the record is that of its first event. -/
lemma protocol_ofEvents {id : Int} {es : List Event} {r : CallRecord}
    (h : ofEvents id es = some r) : ∃ e ∈ es, r.protocol = e.protocol := by
  induction h using ofEvents_induction with
  | first e => exact ⟨e, List.mem_singleton_self e, rfl⟩
  | next es r e _ ih =>
    obtain ⟨e₀, he₀, hp⟩ := ih
    exact ⟨e₀, List.mem_append_left _ he₀, hp⟩

/-- The payload of a record of storable events is of the kind of its protocol. -/
lemma kind_ofEvents {id : Int} {es : List Event} {r : CallRecord} (h : ofEvents id es = some r)
    (hes : ∀ e ∈ es, e.isStorable = true) : r.payload.kind = r.protocol.payloadKind := by
  induction h using ofEvents_induction with
  | first e => exact (Event.isStorable_iff.mp (hes e (List.mem_singleton_self e))).2.2
  | next es r e _ ih =>
    rw [kind_revisedBy, protocol_revisedBy]
    exact ih fun e he => hes e (List.mem_append_left _ he)

/-- The number takes no part in what the events amount to. -/
lemma ofEvents_renumbered (id id' : Int) (es : List Event) :
    ofEvents id' es = (ofEvents id es).map fun r => r.renumbered id' := by
  induction es using List.reverseRecOn with
  | nil => rfl
  | append_singleton es e ih =>
    rw [ofEvents_concat, ofEvents_concat, ih]
    cases ofEvents id es <;> rfl

end CallRecord

end VoipCalls
