import Mathlib.Algebra.BigOperators.Group.List.Lemmas
import Mathlib.Algebra.BigOperators.Ring.Finset
import VoipCalls.Proofs.Call.Comparison
import VoipCalls.Proofs.Call.Summary
import VoipCalls.Proofs.Intake.Log

/-!
# The records of a log

What the records of an intake say about the entries of its log.  Each record summarises the events
of its call (`Intake.Follows.summarises`).  So the records can be compared if all times are numbers,
and when the log grows no record is lost and every call keeps its speaker.  Together the records
count all entries (`Intake.Follows.sum_packetCount`), and a record of which all events name one SIP
dialog names it, too (`CallRecord.dialog?_ofEvents`).
-/

namespace VoipCalls

/-! ## The dialog of a record -/

/-- The identifier by which a payload names a SIP dialog. -/
def Payload.dialog? : Payload → Option String
  | .sip info => info.callIdentifier
  | .common | .isup _ | .h323 _ | .h248 _ => none

/-- A payload that names a dialog is one of SIP. -/
lemma Payload.exists_of_dialog? {p : Payload} {id : String} (h : p.dialog? = some id) :
    ∃ info : SipInfo, p = .sip info ∧ info.callIdentifier = some id := by
  cases p with
  | sip info => exact ⟨info, rfl, h⟩
  | common | isup | h323 | h248 => cases h

/-- The record of some events that all name one dialog names it. -/
lemma CallRecord.dialog?_ofEvents {call : Int} {es : List Event} {r : CallRecord} {id : String}
    (h : CallRecord.ofEvents call es = some r)
    (hes : ∀ e ∈ es, ∃ p, e.payload = some p ∧ p.dialog? = some id) :
    r.payload.dialog? = some id := by
  induction h using CallRecord.ofEvents_induction with
  | first e =>
    obtain ⟨p, hpayload, hid⟩ := hes e (List.mem_singleton_self e)
    change (e.payload.getD _).dialog? = _
    rw [hpayload]
    exact hid
  | next es r e _ ih =>
    obtain ⟨info, hrecord, -⟩ :=
      Payload.exists_of_dialog? (ih fun d hd => hes d (List.mem_append_left _ hd))
    obtain ⟨p, hpayload, hid⟩ := hes e (List.mem_append_right _ (List.mem_singleton_self e))
    obtain ⟨offered, rfl, hoffered⟩ := Payload.exists_of_dialog? hid
    unfold CallRecord.revisedBy CallRecord.revised
    rw [hpayload, hrecord]
    change lastKnown info.callIdentifier offered.callIdentifier = some id
    rw [hoffered]
    rfl

namespace Intake

/-! ## What the log says about the records -/

variable {x y : Intake} {log log' : List Entry} {r : CallRecord}

/-- When a log grows, so do the events of each call. -/
lemma prefix_eventsOf (h : log <+: log') (call : Int) : eventsOf call log <+: eventsOf call log' :=
  (h.filter _).map _

/-- A record summarises the events of its call. -/
lemma Follows.summarises (h : x.Follows log) {i : ℕ} (hr : x.store.working[i]? = some r) :
    r.Summarises (eventsOf i log) := by
  rw [h.records] at hr
  exact CallRecord.summarises_ofEvents hr fun e he => (h.complete _ (mem_eventsOf.mp he)).1

/-- When the log grows, no record is lost. -/
lemma Follows.length_le_of_prefix (hx : x.Follows log) (hy : y.Follows log') (h : log <+: log') :
    x.store.working.length ≤ y.store.working.length := by
  by_contra hshort
  have hnone : y.store.working[y.store.working.length]? = none :=
    List.getElem?_eq_none (Nat.le_refl _)
  have hsome := List.getElem?_eq_getElem (Nat.not_le.mp hshort)
  rw [hy.records, CallRecord.ofEvents_eq_none] at hnone
  have hempty := prefix_eventsOf h (y.store.working.length : ℕ)
  rw [hnone, List.prefix_nil] at hempty
  rw [hx.records, hempty] at hsome
  cases hsome

/-- When the log grows, the speakers stay the same. -/
lemma Follows.initialSpeaker_of_prefix (hx : x.Follows log) (hy : y.Follows log')
    (h : log <+: log') {i : ℕ} {r' : CallRecord} (hr : x.store.working[i]? = some r)
    (hr' : y.store.working[i]? = some r') : r.initialSpeaker = r'.initialSpeaker := by
  obtain ⟨e, hhead, -, hspeaker, -⟩ := (hx.summarises hr).start
  obtain ⟨e', hhead', -, hspeaker', -⟩ := (hy.summarises hr').start
  obtain ⟨later, hlater⟩ := prefix_eventsOf h i
  rw [← hlater, List.head?_append, hhead] at hhead'
  obtain rfl : e = e' := Option.some.inj hhead'
  rw [hspeaker, hspeaker']

/-- If all times are numbers, the records can be compared in every column. -/
lemma Follows.isComparable_record (h : x.Follows log)
    (hlog : ∀ a ∈ log, a.event.seconds.isNaN = false) (hr : r ∈ x.store.working) (c : Column) :
    r.isComparable c = true := by
  obtain ⟨i, hi⟩ := List.mem_iff_getElem?.mp hr
  have hsummary := h.summarises hi
  have hnumbers : ∀ e ∈ eventsOf i log, e.seconds.isNaN = false :=
    fun e he => hlog _ (mem_eventsOf.mp he)
  cases c with
  | startTime =>
    obtain ⟨first, hhead, -, -, hstart, -⟩ := hsummary.start
    change (!r.start.isNaN) = true
    rw [hstart, hnumbers _ (List.mem_of_head? hhead)]
    rfl
  | stopTime =>
    obtain ⟨latest, hlatest, hstop, -⟩ := hsummary.stop hnumbers
    change (!r.stop.isNaN) = true
    rw [hstop, hnumbers _ hlatest.mem]
    rfl
  | initialSpeaker | fromIdentity | toIdentity | protocol | packets | state | comments => rfl

/-- If all events are of one protocol, so are the records. -/
lemma Follows.protocol_record (h : x.Follows log) {p : Protocol}
    (hlog : ∀ a ∈ log, a.event.protocol = p) (hr : r ∈ x.store.working) : r.protocol = p := by
  obtain ⟨i, hi⟩ := List.mem_iff_getElem?.mp hr
  obtain ⟨first, hhead, hprotocol, -⟩ := (h.summarises hi).start
  rw [hprotocol]
  exact hlog _ (mem_eventsOf.mp (List.mem_of_head? hhead))

/-! ## What the records count -/

/-- A record counts the entries of its call. -/
lemma Follows.packetCount_record (h : x.Follows log) (hr : r ∈ x.store.working) :
    r.packetCount = (log.map (·.call)).count r.callId := by
  obtain ⟨i, hi⟩ := List.mem_iff_getElem?.mp hr
  rw [h.sound.numbered i r hi]
  rw [h.records] at hi
  rw [CallRecord.packetCount_ofEvents hi, eventsOf, List.length_map,
    ← List.countP_eq_length_filter, List.count, List.countP_map]
  rfl

/-- The records have different numbers. -/
lemma Follows.nodup_callId (h : x.Follows log) : (x.store.working.map (·.callId)).Nodup := by
  rw [List.Nodup, List.pairwise_map, List.pairwise_iff_getElem]
  intro i j hi hj hij hsame
  rw [h.sound.numbered i _ (List.getElem?_eq_getElem hi),
    h.sound.numbered j _ (List.getElem?_eq_getElem hj)] at hsame
  omega

/-- The numbers of the records are the calls of the entries, each once. -/
lemma Follows.perm_callId (h : x.Follows log) :
    (x.store.working.map (·.callId)).Perm (log.map (·.call)).dedup := by
  rw [List.perm_ext_iff_of_nodup h.nodup_callId (List.nodup_dedup _)]
  intro call
  rw [List.mem_dedup, List.mem_map, List.mem_map]
  constructor
  · rintro ⟨r, hr, rfl⟩
    obtain ⟨i, hi⟩ := List.mem_iff_getElem?.mp hr
    obtain ⟨entry, hentry, hcall⟩ := h.exists_keyEntry (List.getElem?_eq_some_iff.mp hi).1
    obtain ⟨a, ha, rfl⟩ := h.exists_of_mem_keys hentry
    exact ⟨a, ha, hcall.trans (h.sound.numbered i r hi).symm⟩
  · rintro ⟨a, ha, rfl⟩
    obtain ⟨i, hcall, hi⟩ := h.exists_place (h.keyEntry_mem ha)
    exact ⟨_, List.getElem_mem hi,
      (h.sound.numbered i _ (List.getElem?_eq_getElem hi)).trans hcall.symm⟩

/-- The records together count the entries. -/
lemma Follows.sum_packetCount (h : x.Follows log) :
    (x.store.working.map (·.packetCount)).sum = log.length := by
  let calls := log.map (·.call)
  calc (x.store.working.map (·.packetCount)).sum
      = ((x.store.working.map (·.callId)).map fun call => (calls.count call : Int)).sum := by
        rw [List.map_map]
        exact congrArg List.sum (List.map_congr_left fun r hr => h.packetCount_record hr)
    _ = (calls.dedup.map fun call => (calls.count call : Int)).sum :=
        (h.perm_callId.map _).sum_eq
    _ = ((calls.dedup.map fun call => calls.count call).sum : ℕ) := by
        rw [Nat.cast_list_sum, List.map_map]
        rfl
    _ = log.length := by
        rw [List.sum_map_count_dedup_eq_length, List.length_map]

end Intake

end VoipCalls
