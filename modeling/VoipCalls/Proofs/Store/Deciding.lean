import VoipCalls.Proofs.Call.Growth
import VoipCalls.Store

/-!
# Deciding before writing

Storing an event asks questions and writes in turn, in three functions, and what was written before
a question is answered with a refusal would stay written.  It never comes to that: on every way
through `Store.enroll` the last question is answered before anything is written.

`Store.decision` asks the questions alone, and `Store.written` does the writing alone.  That the
store does the one after the other is `Store.outcome_place`, step by step, and `Store.upsert_eq`.
So a refused event leaves every store as it was (`Store.upsert_refused`), be it one that operations
lead to or not.
-/

namespace VoipCalls

/-- Reading a time leaves the state alone. -/
lemma RawTime.outcome_read {σ : Type} (time : RawTime) (s : σ) :
    time.read.outcome s =
      match time.toDouble? with
      | some seconds => (.ok seconds, s)
      | none => (.error .timeOverflow, s) := by
  unfold read
  cases time.toDouble? <;> rfl

namespace Store

/-! ## The questions -/

/-- The record that an event would open, or why it is refused. -/
def opening (s : Store) (e : Event) (frame : Int) (time : RawTime) : Except Refusal CallRecord :=
  let payload := e.payload.getD e.protocol.emptyPayload
  if payload.kind ≠ e.protocol.payloadKind then
    .error (.malformed (.foreignPayload payload.kind e.protocol))
  else
    match time.toDouble? with
    | none => .error .timeOverflow
    | some seconds => .ok (CallRecord.opened s.nextId e frame seconds)

/-- The record that an event would leave of a call, or why it is refused. -/
def revision (s : Store) (e : Event) (id frame : Int) (time : RawTime) :
    Except Refusal CallRecord :=
  match s.find? id with
  | none => .error (.malformed (.unknownCall id))
  | some r =>
    if r.protocol ≠ e.protocol then
      .error (.malformed (.protocolMismatch id r.protocol e.protocol))
    else if payloadClashes r e then .error (.malformed (.payloadMismatch id))
    else
      match time.toDouble? with
      | none => .error .timeOverflow
      | some seconds => .ok (r.revised e frame seconds)

/-- The record that an event would give its call, or why it is refused. -/
def decision (s : Store) (e : Event) (id? : Option Int) : Except Refusal CallRecord :=
  match e.frame, e.time with
  | some frame, some time =>
    match id? with
    | none => s.opening e frame time
    | some id => s.revision e id frame time
  | _, _ => .error (.malformed .noFrameOrTime)

/-! ## The writing -/

/-- The store with a new record: the call is counted, the record is appended, and the index leads to
it. -/
def added (s : Store) (r : CallRecord) : Store :=
  ((s.counted).append r).indexed r.callId

/-- The store with the record of an event, which is a new one without `id?`. -/
def written (s : Store) (id? : Option Int) (r : CallRecord) : Store :=
  match id? with
  | none => s.added r
  | some id => s.replace id r

/-! ## One after the other -/

variable {s t : Store} {e : Event}

/-- A call is opened after all questions are answered. -/
lemma outcome_create (s : Store) (e : Event) (frame : Int) (time : RawTime) :
    (create e frame time).outcome s =
      match s.opening e frame time with
      | .error refusal => (.error refusal, s)
      | .ok r => (.ok r, s.added r) := by
  unfold create opening
  dsimp only
  split
  · rfl
  · simp only [Attempt.outcome_bind, Attempt.outcome_get, RawTime.outcome_read]
    cases time.toDouble? <;> rfl

/-- A call is revised after all questions are answered. -/
lemma outcome_revise (s : Store) (e : Event) (id frame : Int) (time : RawTime) :
    (revise e id frame time).outcome s =
      match s.revision e id frame time with
      | .error refusal => (.error refusal, s)
      | .ok r => (.ok r, s.replace id r) := by
  unfold revise revision
  simp only [Attempt.outcome_bind, Attempt.outcome_get]
  cases s.find? id with
  | none => rfl
  | some r =>
    dsimp only
    split
    · rfl
    · split
      · rfl
      · simp only [Attempt.outcome_bind, RawTime.outcome_read]
        cases time.toDouble? <;> rfl

/-- An event is written into the working records after all questions are answered. -/
theorem outcome_place (s : Store) (e : Event) (id? : Option Int) :
    (place e id?).outcome s =
      match s.decision e id? with
      | .error refusal => (.error refusal, s)
      | .ok r => (.ok r.callId, (s.written id? r).marked r.callId) := by
  unfold place decision
  cases e.frame with
  | none => rfl
  | some frame =>
    cases e.time with
    | none => rfl
    | some time =>
      cases id? with
      | none =>
        simp only [Attempt.outcome_bind, outcome_create]
        cases s.opening e frame time <;> rfl
      | some id =>
        simp only [Attempt.outcome_bind, outcome_revise]
        cases s.revision e id frame time <;> rfl

/-- So storing an event is deciding on it, and then writing and publishing its record. -/
theorem upsert_eq (s : Store) (e : Event) (id? : Option Int) :
    s.upsert e id? =
      match s.decision e id? with
      | .error refusal => (.error refusal, s)
      | .ok r => (.ok r.callId, ((s.written id? r).marked r.callId).settle) := by
  unfold upsert enroll
  rw [Attempt.outcome_bind, outcome_place]
  cases s.decision e id? <;> rfl

/-- What is made of an answer is a refusal exactly if the answer was that refusal. -/
lemma map_eq_error {α β : Type} {f : α → β} {x : Except Refusal α} {refusal : Refusal} :
    x.map f = .error refusal ↔ x = .error refusal := by
  cases x <;> simp [Except.map]

/-- And it is none exactly if the answer was none. -/
lemma exists_map_eq_ok {α β : Type} {f : α → β} {x : Except Refusal α} :
    (∃ b, x.map f = .ok b) ↔ ∃ a, x = .ok a := by
  cases x <;> simp [Except.map]

/-- The answer to an event is the number of the record that is decided on. -/
lemma upsert_fst (s : Store) (e : Event) (id? : Option Int) :
    (s.upsert e id?).1 = (s.decision e id?).map (·.callId) := by
  rw [upsert_eq]
  cases s.decision e id? <;> rfl

/-- A refused event leaves the store as it was. -/
theorem upsert_refused {id? : Option Int} {refusal : Refusal}
    (h : (s.upsert e id?).1 = .error refusal) : (s.upsert e id?).2 = s := by
  rw [upsert_eq] at h ⊢
  cases hd : s.decision e id? with
  | error _ => rfl
  | ok r =>
    rw [hd] at h
    cases h

/-! ## What is never refused -/

/-- The store reads no number that is missing: it asks for the frame and the time first. -/
lemma opening_ne_missingNumber {frame : Int} {time : RawTime} (kind : NumberKind) :
    s.opening e frame time ≠ .error (.missingNumber kind) := by
  unfold opening
  dsimp only
  split
  · simp
  · split <;> simp

lemma revision_ne_missingNumber {id frame : Int} {time : RawTime} (kind : NumberKind) :
    s.revision e id frame time ≠ .error (.missingNumber kind) := by
  unfold revision
  split
  · simp
  · split_ifs
    · simp
    · simp
    · split <;> simp

lemma upsert_ne_missingNumber {id? : Option Int} (kind : NumberKind) :
    (s.upsert e id?).1 ≠ .error (.missingNumber kind) := by
  rw [upsert_fst, Ne, map_eq_error]
  unfold decision
  split
  · cases id? with
    | none => exact opening_ne_missingNumber kind
    | some id => exact revision_ne_missingNumber kind
  · simp

/-! ## What an event that is stored was like -/

/-- Only an event with a time and a payload of the right kind or none opens a call. -/
lemma of_opening_eq_ok {frame : Int} {raw : RawTime} {r : CallRecord}
    (h : s.opening e frame raw = .ok r) :
    ∃ time, raw.toDouble? = some time ∧
      (e.payload.getD e.protocol.emptyPayload).kind = e.protocol.payloadKind ∧
      r = .opened s.nextId e frame time := by
  simp only [opening] at h
  split at h
  · cases h
  · rename_i hkind
    cases htime : raw.toDouble? with
    | none => rw [htime] at h; cases h
    | some time =>
      rw [htime] at h
      cases h
      exact ⟨time, rfl, not_not.mp hkind, rfl⟩

/-- Only an event with a time, of the protocol of a call and without a clash of payloads, revises
the call. -/
lemma of_revision_eq_ok {id frame : Int} {raw : RawTime} {r' : CallRecord}
    (h : s.revision e id frame raw = .ok r') :
    ∃ time r, raw.toDouble? = some time ∧ s.find? id = some r ∧ r.protocol = e.protocol ∧
      payloadClashes r e = false ∧ r' = r.revised e frame time := by
  unfold revision at h
  cases hr : s.find? id with
  | none => rw [hr] at h; cases h
  | some r =>
    rw [hr] at h
    dsimp only at h
    split at h
    · cases h
    · rename_i hprot
      split at h
      · cases h
      · rename_i hclash
        cases htime : raw.toDouble? with
        | none => rw [htime] at h; cases h
        | some time =>
          rw [htime] at h
          cases h
          exact ⟨time, r, rfl, rfl, not_not.mp hprot, by simpa using hclash, rfl⟩

/-- Everything that a decision for an event can mean: it opens the next call, or it revises the call
that it names. -/
lemma of_decision_eq_ok {id? : Option Int} {r' : CallRecord} (h : s.decision e id? = .ok r') :
    ∃ frame raw time, e.frame = some frame ∧ e.time = some raw ∧ raw.toDouble? = some time ∧
      ((id? = none ∧ (e.payload.getD e.protocol.emptyPayload).kind = e.protocol.payloadKind ∧
          r' = .opened s.nextId e frame time) ∨
        ∃ id r, id? = some id ∧ s.find? id = some r ∧ r.protocol = e.protocol ∧
          payloadClashes r e = false ∧ r' = r.revised e frame time) := by
  unfold decision at h
  split at h
  case h_2 => cases h
  case h_1 frame raw hf ht =>
    cases id? with
    | none =>
      obtain ⟨time, htime, hkind, rfl⟩ := of_opening_eq_ok h
      exact ⟨frame, raw, time, hf, ht, htime, Or.inl ⟨rfl, hkind, rfl⟩⟩
    | some id =>
      obtain ⟨time, r, htime, hr, hprot, hclash, rfl⟩ := of_revision_eq_ok h
      exact ⟨frame, raw, time, hf, ht, htime, Or.inr ⟨id, r, rfl, hr, hprot, hclash, rfl⟩⟩

/-- An event that is answered with a number has a frame and a time that a double can hold. -/
lemma exists_of_upsert_eq_ok {id? : Option Int} {call : Int}
    (h : (s.upsert e id?).1 = .ok call) :
    ∃ frame raw time, e.frame = some frame ∧ e.time = some raw ∧ raw.toDouble? = some time := by
  rw [upsert_fst] at h
  cases hd : s.decision e id? with
  | error refusal => rw [hd] at h; cases h
  | ok r =>
    obtain ⟨frame, raw, time, hframe, htime, hdouble, -⟩ := of_decision_eq_ok hd
    exact ⟨frame, raw, time, hframe, htime, hdouble⟩

end Store

end VoipCalls
