import VoipCalls.Filter.Fields
import VoipCalls.Proofs.Store.History

/-!
# The integrity of the stored records

Whatever is asked of a store, and whatever it refuses, its records are in order: a call stands at
the place of its number, its payload is of the kind of its protocol, and it starts and stops with
frames of events that were stored for it (`CallRecord.WellKept`).  This holds of the working records
and of those that readers see, which may be behind them while a batch is open.

Two parts of the program rest on it without a check of their own.  What is shown of a call and the
clause that selects it ask for the payload together with the protocol, and they would pass over a
payload of another kind in silence.  Publishing copies the noted calls to the places of their
numbers, and so it needs these places to exist (`Store.Copyable`).
-/

namespace VoipCalls

namespace CallRecord

variable {r : CallRecord} {id : Int} {es : List Event}

/-! ## Records of the right kind -/

/-- A call is of a protocol, and so is its payload. -/
def IsOf (r : CallRecord) (p : Protocol) : Prop :=
  r.protocol = p ∧ r.payload.kind = p.payloadKind

/-- The protocols whose calls are selected by fields of their payloads. -/
def keyedProtocols : List Protocol :=
  [.sip, .isup, .h323, .h248]

/-- A call that is neither of ISUP nor of H.323 shows its comment. -/
lemma commentText_eq_comment (hisup : ¬ r.IsOf .isup) (hh323 : ¬ r.IsOf .h323) :
    r.commentText = r.comment := by
  unfold commentText featureText?
  split
  · rename_i hprotocol hpayload
    exact absurd ⟨hprotocol, congrArg Payload.kind hpayload⟩ hisup
  · rename_i hprotocol hpayload
    exact absurd ⟨hprotocol, congrArg Payload.kind hpayload⟩ hh323
  · rfl

/-- A call that is of no protocol with fields has the clause that holds of every frame. -/
lemma fieldClause_eq_placeholder (h : ∀ p ∈ keyedProtocols, ¬ r.IsOf p) :
    fieldClause r = placeholderClause := by
  unfold fieldClause
  split
  · rename_i hprotocol hpayload
    exact absurd ⟨hprotocol, congrArg Payload.kind hpayload⟩ (h .sip (by decide))
  · rename_i hprotocol hpayload
    exact absurd ⟨hprotocol, congrArg Payload.kind hpayload⟩ (h .isup (by decide))
  · rename_i hprotocol hpayload
    exact absurd ⟨hprotocol, congrArg Payload.kind hpayload⟩ (h .h323 (by decide))
  · rename_i hprotocol hpayload
    exact absurd ⟨hprotocol, congrArg Payload.kind hpayload⟩ (h .h248 (by decide))
  · rfl

/-! ## Records of stored events -/

/-- What a store guarantees of a record; `es` are the events that were stored for the call. -/
structure WellKept (r : CallRecord) (es : List Event) : Prop where
  /-- The payload is of the kind that calls of the protocol have from the beginning. -/
  payload : r.payload.kind = r.protocol.emptyPayload.kind
  /-- The call starts with the frame of one of the events. -/
  startFrame : ∃ e ∈ es, ∃ frame, e.frame = some frame ∧ r.startFrame = some frame
  /-- The call stops with the frame of one of the events. -/
  stopFrame : ∃ e ∈ es, ∃ frame, e.frame = some frame ∧ r.stopFrame = some frame
  /-- At least one packet is counted. -/
  packetCount : 1 ≤ r.packetCount
  /-- If the comment is shown because neither payload with features is there, then the protocol has
  no features. -/
  comment : ¬ r.IsOf .isup → ¬ r.IsOf .h323 →
    r.commentText = r.comment ∧ r.protocol ≠ .isup ∧ r.protocol ≠ .h323
  /-- If the clause holds of every frame because no payload with fields is there, then the protocol
  has no fields. -/
  clause : (∀ p ∈ keyedProtocols, ¬ r.IsOf p) →
    fieldClause r = placeholderClause ∧ r.protocol ∉ keyedProtocols

/-- The call stops with the frame of one of its events, whatever their times are. -/
lemma stopFrame_ofEvents (h : ofEvents id es = some r) (hes : ∀ e ∈ es, e.isStorable = true) :
    ∃ e ∈ es, r.stopFrame = e.frame := by
  induction h using ofEvents_induction with
  | first e =>
    have he := List.mem_singleton_self e
    exact ⟨e, he, Summarises.frame_eq (hes e he)⟩
  | next es r e _ ih =>
    have he : e ∈ es ++ [e] := List.mem_append_right _ (List.mem_singleton_self e)
    obtain ⟨latest, hlatest, hframe⟩ := ih fun a ha => hes a (List.mem_append_left _ ha)
    cases hle : r.stop.le e.seconds with
    | true =>
      have hstop : (r.revisedBy e).stopFrame = some e.frameNumber := if_pos hle
      exact ⟨e, he, hstop.trans (Summarises.frame_eq (hes e he))⟩
    | false =>
      have hstop : (r.revisedBy e).stopFrame = r.stopFrame :=
        if_neg (by rw [hle]; exact Bool.false_ne_true)
      exact ⟨latest, List.mem_append_left _ hlatest, hstop.trans hframe⟩

/-- The record of some of the events that were stored for a call is well kept. -/
lemma wellKept_ofEvents {stored : List Event} (h : ofEvents id es = some r) (hsub : es ⊆ stored)
    (hstorable : ∀ e ∈ stored, e.isStorable = true) : r.WellKept stored := by
  have hes : ∀ e ∈ es, e.isStorable = true := fun e he => hstorable e (hsub he)
  have hframe : ∀ {frame? : Option Int}, (∃ e ∈ es, frame? = e.frame) →
      ∃ e ∈ stored, ∃ frame, e.frame = some frame ∧ frame? = some frame := by
    rintro _ ⟨e, he, rfl⟩
    obtain ⟨⟨frame, hframe⟩, -⟩ := Event.isStorable_iff.mp (hes e he)
    exact ⟨e, hsub he, frame, hframe, hframe⟩
  have hkind := kind_ofEvents h hes
  have hisOf : r.IsOf r.protocol := ⟨rfl, hkind⟩
  obtain ⟨first, hfirst, -, -, -, hstart⟩ := (summarises_ofEvents h hes).start
  exact
    { payload := hkind.trans (Payload.kind_empty _).symm
      startFrame := hframe ⟨first, List.mem_of_head? hfirst, hstart⟩
      stopFrame := hframe (stopFrame_ofEvents h hes)
      packetCount := by
        have hne : es ≠ [] := by
          rintro rfl
          cases h
        have hlength := List.length_pos_iff.mpr hne
        rw [packetCount_ofEvents h]
        omega
      comment := fun hisup hh323 =>
        ⟨commentText_eq_comment hisup hh323, fun hp => hisup (hp ▸ hisOf),
          fun hp => hh323 (hp ▸ hisOf)⟩
      clause := fun hnone =>
        ⟨fieldClause_eq_placeholder hnone, fun hp => hnone _ hp hisOf⟩ }

end CallRecord

namespace Store

variable {s t : Store} {op : Operation} {i : ℕ} {es : List Event}

/-! ## What readers see of a call -/

/-- The published record of a call amounts to the first of the events that were stored for it. -/
def Shown (s : Store) (i : ℕ) (es : List Event) : Prop :=
  ∀ r, s.published[i]? = some r → ∃ seen, seen <+: es ∧ CallRecord.ofEvents i seen = some r

/-- An operation leaves the published records alone, or they catch up, unless it forgets them. -/
lemma Coherent.published_perform (h : s.Coherent) (hop : op ≠ .clear) :
    (s.perform op).published = s.published ∨
      (s.perform op).published = (s.perform op).working := by
  by_cases hdepth : (s.perform op).depth = 0
  · exact Or.inr ((h.run [op]).settled hdepth).1
  · refine Or.inl ?_
    cases op with
    | upsert e id? =>
      have hopen : (s.perform (.upsert e id?)).depth = s.depth := depth_upsert s e id?
      exact published_upsert (by omega) e id?
    | enter => rfl
    | leave =>
      have hopen : (s.perform .leave).depth = s.depth - 1 := depth_leave s
      have hinner : 0 < ({ s with depth := s.depth - 1 } : Store).depth := by
        dsimp only
        omega
      change s.leave.published = _
      rw [Store.leave, settle_eq_self hinner]
    | clear => exact absurd rfl hop

/-- Every operation keeps what readers see of a call a beginning of what was stored for it. -/
lemma Shown.perform (hs : s.Coherent) (hholds : s.Holds i es) (h : s.Shown i es)
    (op : Operation) : (s.perform op).Shown i (s.storedAfter i es op) := by
  have hafter := hholds.perform hs.toSound op
  intro r hr
  by_cases hop : op = .clear
  · subst hop
    cases hr
  · rcases hs.published_perform hop with hsame | hcaught
    · rw [hsame] at hr
      obtain ⟨seen, hseen, hevents⟩ := h r hr
      have hclear : Operation.clear ∉ [op] := by simpa using Ne.symm hop
      have hgrown : es <+: s.storedAfter i es op := prefix_storedSince s i es hclear
      exact ⟨seen, hseen.trans hgrown, hevents⟩
    · rw [hcaught, hafter.record] at hr
      exact ⟨_, List.prefix_refl _, hr⟩

/-- In every run, readers see of a call a beginning of what was stored for it. -/
lemma Shown.run (hs : s.Coherent) (hholds : s.Holds i es) (h : s.Shown i es)
    (ops : List Operation) : (run s ops).Shown i (s.storedSince i es ops) := by
  induction ops generalizing s es with
  | nil => exact h
  | cons op ops ih =>
    exact ih (hs.run [op]) (hholds.perform hs.toSound op) (h.perform hs hholds op)

/-- Readers see of a call a beginning of its history. -/
lemma shown_history (i : ℕ) (ops : List Operation) : (run {} ops).Shown i (history i ops) :=
  Shown.run .empty (holds_history i []) (fun _ hr => by cases hr) ops

/-! ## Where publishing copies to -/

/-- Publishing can copy: each noted call has a working record, and among the published records,
once the new ones are appended, there is a place of its number. -/
def Copyable (s : Store) : Prop :=
  ∀ id ∈ s.dirty, ∃ i : ℕ, id = i ∧
    i < (s.published ++ s.working.drop s.published.length).length ∧
    ∃ r, s.working[i]? = some r ∧ s.find? id = some r

/-- Publishing can copy if nothing is noted that does not exist. -/
lemma Sound.copyable (h : s.Sound) (hn : s.Noted) : s.Copyable := by
  intro id hid
  obtain ⟨i, rfl, hi⟩ := hn.known id hid
  have hlength := hn.length_le
  refine ⟨i, rfl, ?_, s.working[i], List.getElem?_eq_getElem hi, ?_⟩
  · rw [List.length_append, List.length_drop]
    omega
  · rw [h.find?_natCast]
    exact List.getElem?_eq_getElem hi

/-- The store that an operation has to settle: the event is written and noted, or the batch is left,
and nothing is published yet. -/
def unsettled (s : Store) : Operation → Option Store
  | .upsert e id? =>
    match (place e id?).outcome s with
    | (.ok _, t) => some t
    | (.error _, _) => none
  | .leave => some { s with depth := s.depth - 1 }
  | .enter | .clear => none

/-- What storing an event has to settle is the store with the record that is decided on. -/
lemma exists_of_unsettled_upsert {e : Event} {id? : Option Int}
    (h : s.unsettled (.upsert e id?) = some t) :
    ∃ r, s.decision e id? = .ok r ∧ (s.written id? r).marked r.callId = t := by
  unfold unsettled at h
  dsimp only at h
  rw [outcome_place] at h
  cases hd : s.decision e id? with
  | error refusal =>
    rw [hd] at h
    cases h
  | ok r =>
    rw [hd] at h
    exact ⟨r, rfl, Option.some.inj h⟩

/-- An operation that has something to settle does no more than that. -/
lemma perform_of_unsettled (h : s.unsettled op = some t) : s.perform op = t.settle := by
  cases op with
  | upsert e id? =>
    obtain ⟨r, hd, rfl⟩ := exists_of_unsettled_upsert h
    change (s.upsert e id?).2 = _
    rw [upsert_eq, hd]
  | leave =>
    cases h
    rfl
  | enter | clear => cases h

/-- What an operation has to settle is sound, and all its changes are noted. -/
lemma Coherent.of_unsettled (h : s.Coherent) (hu : s.unsettled op = some t) :
    t.Sound ∧ t.Noted := by
  cases op with
  | upsert e id? =>
    obtain ⟨r, hd, rfl⟩ := exists_of_unsettled_upsert hu
    exact h.of_decision hd
  | leave =>
    cases hu
    exact ⟨h.toSound.congr ⟨rfl, rfl, rfl⟩, h.length_le, h.agree, h.known, h.placed⟩
  | enter | clear => cases hu

/-! ## The integrity of a run -/

/-- After every run, whatever was refused on the way, each record stands at the place of its number
and is well kept, be it a working record or one that readers see; the calls that were created are
those numbered from zero up to the number of records; and whatever the next operation has to
publish, it copies to places that exist. -/
theorem run_integrity (ops : List Operation) :
    (∀ (i : ℕ) (r : CallRecord),
      (run {} ops).working[i]? = some r ∨ (run {} ops).published[i]? = some r →
        r.callId = i ∧ r.WellKept (history i ops)) ∧
    (∀ id, (run {} ops).knows id = true ↔ 0 ≤ id ∧ id < (run {} ops).working.length) ∧
    ∀ op t, (run {} ops).unsettled op = some t →
      (run {} ops).perform op = t.settle ∧ t.Copyable := by
  have hrun := Coherent.empty.run ops
  refine ⟨fun i r hr => ?_, fun id => ?_, fun op t ht => ?_⟩
  · have hholds := holds_history i ops
    obtain ⟨seen, hseen, hevents⟩ : ∃ seen, seen <+: history i ops ∧
        CallRecord.ofEvents i seen = some r := by
      rcases hr with hr | hr
      · exact ⟨_, List.prefix_refl _, hholds.record.symm.trans hr⟩
      · exact shown_history i ops r hr
    exact ⟨CallRecord.callId_ofEvents hevents,
      CallRecord.wellKept_ofEvents hevents hseen.subset hholds.storable⟩
  · rw [hrun.knows_iff]
    constructor
    · rintro ⟨i, rfl, hi⟩
      omega
    · rintro ⟨hpos, hlt⟩
      exact ⟨id.toNat, by omega, by omega⟩
  · obtain ⟨hsound, hnoted⟩ := hrun.of_unsettled ht
    exact ⟨perform_of_unsettled ht, hsound.copyable hnoted⟩

/-- The calls are forgotten inside a batch.  Another call is opened in an inner one and revised by
an earlier event, and two events are refused: one has the payload of another protocol, and one names
the call that was forgotten. -/
def clearedBatch : List Operation :=
  [.enter,
    .upsert { protocol := .sip, frame := some 1, time := some (.whole 0) } none,
    .upsert { protocol := .sip, frame := some 2, time := some (.whole 0) } none, .clear, .enter,
    .upsert { protocol := .isup, frame := some 7, time := some (.whole 2) } none,
    .upsert { protocol := .isup, frame := some 8, time := some (.whole 3),
              payload := some (.sip {}) } (some 0),
    .upsert { protocol := .sip, frame := some 9, time := some (.whole 4) } (some 1),
    .upsert { protocol := .isup, frame := some 5, time := some (.whole 1) } (some 0), .leave]

/-- The record of the new call is well kept, although readers do not see it yet, and it can be
published when the outer batch is left. -/
theorem run_clearedBatch :
    (∃ r, (run {} clearedBatch).working[0]? = some r ∧ r.callId = 0 ∧
      r.WellKept (history 0 clearedBatch)) ∧
    (history 0 clearedBatch).map (·.frame) = [some 7, some 5] ∧
    (run {} clearedBatch).published = [] ∧
    (run {} (clearedBatch ++ [.leave])).published.length = 1 ∧
    (run {} clearedBatch).knows 1 = false ∧
    ∃ t, (run {} clearedBatch).unsettled .leave = some t ∧ t.dirty = [0] ∧ t.Copyable := by
  obtain ⟨hrecords, hknows, hpending⟩ := run_integrity clearedBatch
  have hsome : ((run {} clearedBatch).working[0]?).isSome = true := by decide
  obtain ⟨r, hr⟩ := Option.isSome_iff_exists.mp hsome
  obtain ⟨hid, hkept⟩ := hrecords 0 r (Or.inl hr)
  refine ⟨⟨r, hr, hid, hkept⟩, by decide, by decide, by decide, ?_, _, rfl, by decide, ?_⟩
  · rw [Bool.eq_false_iff, Ne, hknows]
    decide
  · exact (hpending .leave _ rfl).2

end Store

end VoipCalls
