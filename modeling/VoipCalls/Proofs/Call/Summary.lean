import VoipCalls.Proofs.Call.Growth
import VoipCalls.Proofs.Number.Comparison

/-!
# What a record says about its events

Each field of a record follows a rule of its own.  Some are fixed by the first event, some are the
first or the last text that was offered and is not empty, and the end of the call is the latest of
the times, with the frame of the last event of that time.

`CallRecord.Summarises` states these rules in closed form, over lists of events of any length, and
`CallRecord.summarises_ofEvents` proves them of every record.  The proof is one induction along the
growth of the record: `Summarises.first` and `Summarises.next` are its two steps.
-/

namespace VoipCalls

/-! ## Texts that are offered -/

/-- The texts that some events offer for a field, without the missing and the empty ones. -/
def offered (field : Event → Option String) (es : List Event) : List String :=
  (es.filterMap field).filter fun s => !s.isEmpty

section Offered

variable {field : Event → Option String} {es : List Event} {e : Event}

/-- An event without a text offers nothing. -/
lemma offered_concat_of_isEmpty (h : (textOrEmpty (field e)).isEmpty = true) :
    offered field (es ++ [e]) = offered field es := by
  unfold offered
  rw [List.filterMap_append, List.filter_append]
  cases hf : field e with
  | none => simp [hf]
  | some s =>
    rw [hf] at h
    have hs : s.isEmpty = true := h
    simp [hf, hs]

/-- An event with a text offers it. -/
lemma offered_concat_of_filled (h : (textOrEmpty (field e)).isEmpty = false) :
    offered field (es ++ [e]) = offered field es ++ [textOrEmpty (field e)] := by
  unfold offered
  rw [List.filterMap_append, List.filter_append]
  cases hf : field e with
  | none => rw [hf] at h; cases h
  | some s =>
    rw [hf] at h
    have hs : s.isEmpty = false := h
    simp [hf, hs, textOrEmpty]

/-- No empty text is offered. -/
lemma isEmpty_eq_false_of_mem_offered {s : String} (h : s ∈ offered field es) :
    s.isEmpty = false := by
  simpa using (List.mem_filter.mp h).2

/-- Where nothing is offered, each event has an empty text or none. -/
lemma isEmpty_of_offered_eq_nil (h : offered field es = []) (he : e ∈ es) :
    (textOrEmpty (field e)).isEmpty = true := by
  cases hf : field e with
  | none => rfl
  | some s =>
    by_contra hs
    have hfilled : (!s.isEmpty) = true := by simpa [textOrEmpty] using hs
    have hin : s ∈ offered field es :=
      List.mem_filter.mpr ⟨List.mem_filterMap.mpr ⟨e, he, hf⟩, hfilled⟩
    rw [h] at hin
    exact absurd hin List.not_mem_nil

/-- The first text that is offered stays the first one. -/
lemma head?_offered_concat : (offered field (es ++ [e])).head?.getD "" =
    firstFilled ((offered field es).head?.getD "") (textOrEmpty (field e)) := by
  have hhead : (((offered field es).head?.getD "").isEmpty = true) ↔ offered field es = [] := by
    cases ho : offered field es with
    | nil => simp
    | cons s rest =>
      have hs : s.isEmpty = false :=
        isEmpty_eq_false_of_mem_offered (by rw [ho]; exact List.mem_cons_self)
      simp [hs]
  unfold firstFilled
  cases he : (textOrEmpty (field e)).isEmpty with
  | true =>
    rw [offered_concat_of_isEmpty he]
    split
    · rename_i hempty
      rw [hhead.mp hempty, List.head?_nil, Option.getD_none]
      exact (String.isEmpty_iff.mp he).symm
    · rfl
  | false =>
    rw [offered_concat_of_filled he]
    split
    · rename_i hempty
      rw [hhead.mp hempty]
      rfl
    · rename_i hfilled
      cases ho : offered field es with
      | nil => exact absurd (hhead.mpr ho) hfilled
      | cons s rest => rfl

/-- A text that is offered becomes the last one. -/
lemma getLast?_offered_concat : (offered field (es ++ [e])).getLast?.getD "" =
    lastFilled ((offered field es).getLast?.getD "") (textOrEmpty (field e)) := by
  unfold lastFilled
  cases he : (textOrEmpty (field e)).isEmpty with
  | true =>
    rw [offered_concat_of_isEmpty he]
    rfl
  | false =>
    rw [offered_concat_of_filled he, List.getLast?_concat]
    rfl

end Offered

/-! ## The latest event -/

/-- An event is the last one of the latest time among some events: none before it is later, and all
behind it are earlier. -/
def Event.IsLatest (e : Event) (es : List Event) : Prop :=
  ∃ before behind, es = before ++ e :: behind ∧
    (∀ a ∈ before, a.seconds.le e.seconds = true) ∧ ∀ a ∈ behind, a.seconds.lt e.seconds = true

namespace Event.IsLatest

variable {es : List Event} {e e' : Event}

/-- The only event is the latest. -/
lemma singleton (e : Event) : e.IsLatest [e] :=
  ⟨[], [], rfl, fun _ ha => absurd ha List.not_mem_nil, fun _ ha => absurd ha List.not_mem_nil⟩

/-- The latest event is one of the events. -/
lemma mem (h : e.IsLatest es) : e ∈ es := by
  obtain ⟨before, behind, rfl, -, -⟩ := h
  exact List.mem_append_right _ List.mem_cons_self

/-- No event is later than the latest, if its own time is a number. -/
lemma le (h : e.IsLatest es) (he : e.seconds.isNaN = false) {a : Event} (ha : a ∈ es) :
    a.seconds.le e.seconds = true := by
  obtain ⟨before, behind, rfl, hbefore, hbehind⟩ := h
  rcases List.mem_append.mp ha with ha | ha
  · exact hbefore a ha
  · rcases List.mem_cons.mp ha with rfl | ha
    · exact Double.le_self he
    · exact Double.le_of_lt (hbehind a ha)

/-- A further event that is not earlier than the latest takes its place. -/
lemma concat_of_le (h : e.IsLatest es) (hle : e.seconds.le e'.seconds = true) :
    e'.IsLatest (es ++ [e']) := by
  refine ⟨es, [], rfl, fun a ha => ?_, fun _ ha => absurd ha List.not_mem_nil⟩
  exact Double.le_trans (h.le (Double.le_iff.mp hle).1 ha) hle

/-- A further event that is earlier than the latest does not. -/
lemma concat_of_lt (h : e.IsLatest es) (hlt : e'.seconds.lt e.seconds = true) :
    e.IsLatest (es ++ [e']) := by
  obtain ⟨before, behind, rfl, hbefore, hbehind⟩ := h
  refine ⟨before, behind ++ [e'], by simp, hbefore, fun a ha => ?_⟩
  rcases List.mem_append.mp ha with ha | ha
  · exact hbehind a ha
  · rw [List.mem_singleton.mp ha]
    exact hlt

end Event.IsLatest

/-! ## The rules of the fields -/

namespace CallRecord

/-- What a record says about the events that it amounts to. -/
structure Summarises (r : CallRecord) (es : List Event) : Prop where
  /-- The record counts the events. -/
  packetCount : r.packetCount = es.length
  /-- The first event fixes the protocol, the speaker and the start. -/
  start : ∃ e, es.head? = some e ∧ r.protocol = e.protocol ∧
    r.initialSpeaker = Address.ofRaw e.src ∧ r.start = e.seconds ∧ r.startFrame = e.frame
  /-- If all times are numbers, the call ends with the last event of the latest time. -/
  stop : (∀ e ∈ es, e.seconds.isNaN = false) →
    ∃ e : Event, e.IsLatest es ∧ r.stop = e.seconds ∧ r.stopFrame = e.frame
  /-- The caller is the first that is offered. -/
  fromIdentity : r.fromIdentity = (offered (·.fromIdentity) es).head?.getD ""
  /-- The callee is the first that is offered. -/
  toIdentity : r.toIdentity = (offered (·.toIdentity) es).head?.getD ""
  /-- The name of the protocol is the first that is offered.  If none is, it is what the first event
  has in its place, which may be an empty text. -/
  protocolName : r.protocolName =
    (offered (·.protocolName) es).head?.or (es.head?.bind (·.protocolName))
  /-- The comment is the last that is offered. -/
  comment : r.comment = (offered (·.comment) es).getLast?.getD ""

namespace Summarises

variable {r : CallRecord} {es : List Event} {e : Event}

/-- A storable event has the frame that it is stored with. -/
lemma frame_eq (he : e.isStorable = true) : some e.frameNumber = e.frame := by
  obtain ⟨⟨frame, hframe⟩, -⟩ := Event.isStorable_iff.mp he
  rw [Event.frameNumber, hframe]
  rfl

/-- The name of the protocol after a further event. -/
lemma protocolName_next (h : r.Summarises es) (e : Event) : (r.revisedBy e).protocolName =
    (offered (·.protocolName) (es ++ [e])).head?.or ((es ++ [e]).head?.bind (·.protocolName)) := by
  obtain ⟨first, hfirst, -⟩ := h.start
  have hhead : (es ++ [e]).head? = es.head? := by rw [List.head?_append, hfirst]; rfl
  have hname := h.protocolName
  unfold revisedBy revised
  rw [hhead]
  dsimp only
  cases ho : offered (·.protocolName) es with
  | nil =>
    -- the name is still the one of the first event, which is empty or missing
    have hempty := isEmpty_of_offered_eq_nil ho (List.mem_of_head? hfirst)
    rw [ho, hfirst] at hname
    have hknown : (textOrEmpty r.protocolName).isEmpty = true := by rw [hname]; exact hempty
    cases he : (textOrEmpty e.protocolName).isEmpty with
    | true =>
      rw [offered_concat_of_isEmpty he, ho, hknown, hfirst]
      exact hname
    | false =>
      rw [offered_concat_of_filled he, ho, hknown]
      cases hp : e.protocolName with
      | none => rw [hp] at he; cases he
      | some name => rfl
  | cons name rest =>
    rw [ho] at hname
    have hin : name ∈ offered (·.protocolName) es := by simp [ho]
    have hfilled : (textOrEmpty r.protocolName).isEmpty = false := by
      rw [hname]
      exact isEmpty_eq_false_of_mem_offered hin
    rw [hfilled, Bool.false_and, if_neg Bool.false_ne_true, hname]
    cases he : (textOrEmpty e.protocolName).isEmpty with
    | true => rw [offered_concat_of_isEmpty he, ho]
    | false =>
      rw [offered_concat_of_filled he, ho]
      rfl

/-- The end of the call after a further event. -/
lemma stop_next (h : r.Summarises es) (he : e.isStorable = true)
    (hnumbers : ∀ a ∈ es ++ [e], a.seconds.isNaN = false) :
    ∃ a : Event, a.IsLatest (es ++ [e]) ∧ (r.revisedBy e).stop = a.seconds ∧
      (r.revisedBy e).stopFrame = a.frame := by
  obtain ⟨a, hlatest, hstop, hframe⟩ := h.stop fun a ha => hnumbers a (List.mem_append_left _ ha)
  unfold revisedBy revised
  dsimp only
  rw [hstop]
  cases hle : a.seconds.le e.seconds with
  | true => exact ⟨e, hlatest.concat_of_le hle, if_pos rfl, by rw [if_pos rfl, frame_eq he]⟩
  | false =>
    have hlt : e.seconds.lt a.seconds = true :=
      Double.lt_of_le_eq_false (hnumbers a (List.mem_append_left _ hlatest.mem))
        (hnumbers e (List.mem_append_right _ (List.mem_singleton_self e))) hle
    exact ⟨a, hlatest.concat_of_lt hlt, rfl, hframe⟩

/-- The record that an event opens. -/
lemma first (id : Int) (he : e.isStorable = true) : (openedBy id e).Summarises [e] where
  packetCount := rfl
  start := ⟨e, rfl, rfl, rfl, rfl, frame_eq he⟩
  stop _ := ⟨e, .singleton e, rfl, frame_eq he⟩
  fromIdentity := by
    rw [← List.nil_append [e], head?_offered_concat]
    rfl
  toIdentity := by
    rw [← List.nil_append [e], head?_offered_concat]
    rfl
  protocolName := by
    change e.protocolName = (offered _ ([] ++ [e])).head?.or e.protocolName
    cases hempty : (textOrEmpty e.protocolName).isEmpty with
    | true => rw [offered_concat_of_isEmpty hempty]; rfl
    | false =>
      rw [offered_concat_of_filled hempty]
      cases hp : e.protocolName with
      | none => rw [hp] at hempty; cases hempty
      | some name => rfl
  comment := by
    rw [← List.nil_append [e], getLast?_offered_concat]
    change textOrEmpty e.comment = if (textOrEmpty e.comment).isEmpty then "" else _
    split
    · rename_i hempty
      exact String.isEmpty_iff.mp hempty
    · rfl

/-- A further event keeps the record a summary. -/
lemma next (h : r.Summarises es) (he : e.isStorable = true) :
    (r.revisedBy e).Summarises (es ++ [e]) where
  packetCount := by
    change r.packetCount + 1 = _
    rw [h.packetCount, List.length_append]
    rfl
  start := by
    obtain ⟨first, hfirst, hrest⟩ := h.start
    refine ⟨first, ?_, hrest⟩
    rw [List.head?_append, hfirst]
    rfl
  stop := h.stop_next he
  fromIdentity := by
    rw [head?_offered_concat, ← h.fromIdentity]
    rfl
  toIdentity := by
    rw [head?_offered_concat, ← h.toIdentity]
    rfl
  protocolName := h.protocolName_next e
  comment := by
    rw [getLast?_offered_concat, ← h.comment]
    rfl

/-- A call does not end before it starts. -/
lemma start_le_stop (h : r.Summarises es) (hnumbers : ∀ e ∈ es, e.seconds.isNaN = false) :
    r.start.le r.stop = true := by
  obtain ⟨first, hfirst, -, -, hstart, -⟩ := h.start
  obtain ⟨latest, hlatest, hstop, -⟩ := h.stop hnumbers
  rw [hstart, hstop]
  exact hlatest.le (hnumbers _ hlatest.mem) (List.mem_of_head? hfirst)

/-- The record of more events does not end earlier. -/
lemma stop_le_stop {r' : CallRecord} {es' : List Event} (h : r.Summarises es)
    (h' : r'.Summarises es') (hsub : es ⊆ es') (hnumbers : ∀ e ∈ es', e.seconds.isNaN = false) :
    r.stop.le r'.stop = true := by
  obtain ⟨latest, hlatest, hstop, -⟩ := h.stop fun e he => hnumbers e (hsub he)
  obtain ⟨latest', hlatest', hstop', -⟩ := h'.stop hnumbers
  rw [hstop, hstop']
  exact hlatest'.le (hnumbers _ hlatest'.mem) (hsub hlatest.mem)

end Summarises

/-- The record of storable events summarises them. -/
theorem summarises_ofEvents {id : Int} {es : List Event} {r : CallRecord}
    (h : ofEvents id es = some r) (hes : ∀ e ∈ es, e.isStorable = true) : r.Summarises es := by
  induction h using ofEvents_induction with
  | first e => exact .first id (hes e (List.mem_singleton_self e))
  | next es r e _ ih =>
    have hr := ih fun a ha => hes a (List.mem_append_left _ ha)
    exact hr.next (hes e (List.mem_append_right _ (List.mem_singleton_self e)))

end CallRecord

end VoipCalls
