import VoipCalls.Proofs.Intake.Acceptance
import VoipCalls.Proofs.Store.Batches

/-!
# Calls do not interfere

The intake treats the events of a key as if there were no others.  Which of them are accepted
depends on those accepted before and on the choice of flows (`Intake.extended`), and the record and
the sequence events of the call depend on those accepted and on its number.

Whatever else is fed in between, be it accepted, ignored, malformed or seen before, can only change
the number of the call (`Intake.feed_congr`).
-/

namespace VoipCalls

/-- Whether an event has a given protocol and correlation key. -/
def Event.isOf (p : Protocol) (k : CorrelationKey) (e : Event) : Bool :=
  decide (e.protocol = p) && decide (e.key = some k)

namespace Intake

variable {x : Intake} {log : List Entry} {e : Event} {p : Protocol} {k : CorrelationKey}

/-! ## The events of a key -/

/-- The accepted events of a key. -/
def ownEvents (p : Protocol) (k : CorrelationKey) (log : List Entry) : List Event :=
  (log.map (·.event)).filter (Event.isOf p k)

/-- An event of a key has that key. -/
lemma callKey_of_isOf (he : e.isOf p k = true) : e.callKey = (p, k) := by
  simp only [Event.isOf, Bool.and_eq_true, decide_eq_true_eq] at he
  rw [Event.callKey_eq he.2, he.1]

/-- An accepted event is of the key that it is registered under. -/
lemma Follows.isOf_iff (h : x.Follows log) {a : Entry} (ha : a ∈ log) :
    a.event.isOf p k = true ↔ a.event.callKey = (p, k) := by
  refine ⟨callKey_of_isOf, fun hkey => ?_⟩
  obtain ⟨k', hk'⟩ := Option.isSome_iff_exists.mp (h.complete a ha).2
  rw [Event.callKey_eq hk'] at hkey
  obtain ⟨rfl, rfl⟩ := Prod.mk.inj hkey
  simp [Event.isOf, hk']

/-- The accepted events of a key are those of its entries. -/
lemma Follows.mem_ownEvents (h : x.Follows log) :
    e ∈ ownEvents p k log ↔ ∃ a ∈ log, a.event = e ∧ a.event.callKey = (p, k) := by
  unfold ownEvents
  rw [List.mem_filter, List.mem_map]
  constructor
  · rintro ⟨⟨a, ha, rfl⟩, he⟩
    exact ⟨a, ha, rfl, (h.isOf_iff ha).mp he⟩
  · rintro ⟨a, ha, rfl, hkey⟩
    exact ⟨⟨a, ha, rfl⟩, (h.isOf_iff ha).mpr hkey⟩

/-- The events of a call are the accepted ones of its key. -/
lemma Follows.eventsOf_eq (h : x.Follows log) {call : Int} (hc : x.tap.callFor p k = some call) :
    eventsOf call log = ownEvents p k log := by
  have hin := Tap.mem_of_callFor hc
  unfold eventsOf ownEvents
  rw [List.filter_map]
  congr 1
  refine List.filter_congr fun a ha => ?_
  have hown := h.keyEntry_mem ha
  rw [Function.comp_apply, Bool.eq_iff_iff, h.isOf_iff ha, decide_eq_true_eq]
  constructor
  · intro hcall
    obtain ⟨hp, hkey, -⟩ := KeyEntry.mk.inj (h.eq_of_call_eq hown hin hcall)
    exact Prod.ext hp hkey
  · intro hkey
    obtain ⟨rfl, rfl⟩ := Prod.mk.inj hkey
    have hsame := h.one_call _ hin _ hown rfl rfl
    exact (KeyEntry.mk.inj hsame).2.2.symm

/-- A key has a call exactly if an event of it was accepted. -/
lemma Follows.isSome_callFor (h : x.Follows log) :
    (x.tap.callFor p k).isSome = !(ownEvents p k log).isEmpty := by
  rw [Bool.eq_iff_iff, Option.isSome_iff_exists, Bool.not_eq_true', List.isEmpty_eq_false_iff,
    ← List.length_pos_iff, List.length_pos_iff_exists_mem]
  constructor
  · rintro ⟨call, hc⟩
    obtain ⟨a, ha, hentry⟩ := h.exists_of_mem_keys (Tap.mem_of_callFor hc)
    obtain ⟨hp, hkey, -⟩ := KeyEntry.mk.inj hentry
    exact ⟨a.event, h.mem_ownEvents.mpr ⟨a, ha, rfl, Prod.ext hp hkey⟩⟩
  · rintro ⟨e, he⟩
    obtain ⟨a, ha, -, hkey⟩ := h.mem_ownEvents.mp he
    obtain ⟨rfl, rfl⟩ := Prod.mk.inj hkey
    exact Tap.exists_callFor_of_mem (h.keyEntry_mem ha)

/-- A packet of a key was seen exactly if an event of the key with its frame was accepted. -/
lemma Follows.hasSeen_eq (h : x.Follows log) (frame : Int) :
    x.tap.hasSeen p k frame = (ownEvents p k log).any fun e => e.frameNumber == frame := by
  rw [Bool.eq_iff_iff, Tap.hasSeen_iff, List.any_eq_true, h.seen, List.mem_map]
  constructor
  · rintro ⟨a, ha, hpacket⟩
    obtain ⟨hp, hkey, hframe⟩ := SeenPacket.mk.inj hpacket
    exact ⟨a.event, h.mem_ownEvents.mpr ⟨a, ha, rfl, Prod.ext hp hkey⟩, by simpa using hframe⟩
  · rintro ⟨e, he, hframe⟩
    obtain ⟨a, ha, rfl, hkey⟩ := h.mem_ownEvents.mp he
    obtain ⟨rfl, rfl⟩ := Prod.mk.inj hkey
    exact ⟨a, ha, by rw [← beq_iff_eq.mp hframe]; rfl⟩

/-! ## The events of a key are accepted on their own account -/

/-- The accepted events of a key after one more event of it.  The event is accepted if it can be
stored, if none of its frame was accepted, and if it is not the first one or may open a call. -/
def extended (opens : Event → Bool) (own : List Event) (e : Event) : List Event :=
  if e.isStorable && !(own.any fun a => a.frameNumber == e.frameNumber) &&
      (!own.isEmpty || opens e) then
    own ++ [e]
  else own

/-- An event of a key extends the accepted ones of the key, and an event of another key does not
change them. -/
lemma Follows.ownEvents_packet (h : x.Follows log) (hatt : x.tap.attached = true) (e : Event) :
    ownEvents p k (x.logAfter log e) =
      if e.isOf p k then extended x.tap.opensCall (ownEvents p k log) e
      else ownEvents p k log := by
  have hgrown : ownEvents p k (log ++ [x.entry e]) =
      if e.isOf p k then ownEvents p k log ++ [e] else ownEvents p k log := by
    unfold ownEvents
    rw [List.map_append, List.filter_append]
    change _ ++ List.filter (Event.isOf p k) [e] = _
    by_cases he : e.isOf p k = true <;> simp [he]
  unfold logAfter
  by_cases he : e.isOf p k = true
  · have hkey := callKey_of_isOf he
    have hsome : e.key.isSome = true := by
      simp only [Event.isOf, Bool.and_eq_true, decide_eq_true_eq] at he
      rw [he.2]
      rfl
    -- what the tap remembers about the key is what its accepted events amount to
    have hadmits : x.admits e = (e.isStorable &&
        !((ownEvents p k log).any fun a => a.frameNumber == e.frameNumber) &&
        (!(ownEvents p k log).isEmpty || x.tap.opensCall e)) := by
      rw [admits, knownCall, hkey, h.hasSeen_eq, h.isSome_callFor, hatt, hsome]
      simp
    rw [if_pos he, extended, ← hadmits]
    split
    · rw [hgrown, if_pos he]
    · rfl
  · rw [if_neg he]
    split
    · rw [hgrown, if_neg he]
    · rfl

/-! ## Feeding a list of events -/

/-- A new intake after some events. -/
def feed (flowShow : FlowShow) (es : List Event) : Intake :=
  es.foldl (fun x e => (x.packet e).2) { tap := { flowShow } }

/-- One more event is one more packet. -/
lemma feed_concat (flowShow : FlowShow) (es : List Event) (e : Event) :
    feed flowShow (es ++ [e]) = ((feed flowShow es).packet e).2 := by
  unfold feed
  rw [List.foldl_append]
  rfl

/-- Whether an event may open a call depends on the choice of flows only. -/
lemma opensCall_congr {t t' : Tap} (h : t.flowShow = t'.flowShow) : t.opensCall = t'.opensCall := by
  funext e
  unfold Tap.opensCall
  rw [h]

/-- What feeding some events to a new intake amounts to, as far as one key is concerned: `own` are
the accepted events of the key. -/
structure FedBy (x : Intake) (flowShow : FlowShow) (p : Protocol) (k : CorrelationKey)
    (log : List Entry) (own : List Event) : Prop where
  /-- The intake follows its log. -/
  follows : x.Follows log
  /-- The sequence index holds the events of the entries as they came. -/
  items : x.sequence.items = log.map Entry.sequenceEvent
  /-- The tap is attached. -/
  attached : x.tap.attached = true
  /-- The choice of flows is the one that was made at first. -/
  flowShow_eq : x.tap.flowShow = flowShow
  /-- The store is coherent. -/
  coherent : x.store.Coherent
  /-- No batch is open. -/
  depth : x.store.depth = 0
  /-- The accepted events of the key. -/
  own_eq : ownEvents p k log = own

/-- Feeding some events amounts to what those of the key amount to. -/
theorem exists_fedBy (flowShow : FlowShow) (es : List Event) :
    ∃ log, (feed flowShow es).FedBy flowShow p k log
      ((es.filter (Event.isOf p k)).foldl (extended (Tap.opensCall { flowShow })) []) := by
  induction es using List.reverseRecOn with
  | nil =>
    exact ⟨[],
      { follows := .empty .empty rfl rfl rfl rfl
        items := rfl
        attached := rfl
        flowShow_eq := rfl
        coherent := .empty
        depth := rfl
        own_eq := rfl }⟩
  | append_singleton es e ih =>
    obtain ⟨log, h⟩ := ih
    obtain ⟨hattached, hflowShow⟩ := h.follows.tap_packet e
    rw [feed_concat]
    refine ⟨(feed flowShow es).logAfter log e,
      { follows := h.follows.packet e
        items := ?_
        attached := hattached.trans h.attached
        flowShow_eq := hflowShow.trans h.flowShow_eq
        coherent := ?_
        depth := ?_
        own_eq := ?_ }⟩
    · rw [h.follows.items_packet, logAfter, h.items]
      split
      · rw [List.map_append]
        rfl
      · rfl
    · rcases h.follows.store_packet e with hs | hs <;> rw [hs]
      · exact h.coherent
      · exact h.coherent.upsert e _
    · rcases h.follows.store_packet e with hs | hs <;> rw [hs]
      · exact h.depth
      · exact (Store.depth_upsert _ _ _).trans h.depth
    · have hopens : (feed flowShow es).tap.opensCall = Tap.opensCall { flowShow } :=
        opensCall_congr h.flowShow_eq
      rw [h.follows.ownEvents_packet h.attached, hopens, h.own_eq, List.filter_append,
        List.foldl_append]
      by_cases he : e.isOf p k = true <;> simp [he]

/-! ## What readers find for a key -/

section FedBy

variable {flowShow : FlowShow} {own : List Event} {call : Int}

/-- The record of the call of a key amounts to the accepted events of the key. -/
lemma FedBy.find?_eq (h : x.FedBy flowShow p k log own) (hc : x.tap.callFor p k = some call) :
    x.store.find? call = CallRecord.ofEvents call own := by
  obtain ⟨i, hi, -⟩ := h.follows.exists_place (Tap.mem_of_callFor hc)
  obtain rfl : call = i := hi
  rw [h.follows.sound.find?_natCast, h.follows.records, h.follows.eventsOf_eq hc, h.own_eq]

/-- Everything is published. -/
lemma FedBy.get?_eq (h : x.FedBy flowShow p k log own) (hc : x.tap.callFor p k = some call) :
    x.store.get? call = CallRecord.ofEvents call own := by
  rw [← h.find?_eq hc]
  obtain ⟨i, hi, -⟩ := h.follows.exists_place (Tap.mem_of_callFor hc)
  obtain rfl : call = i := hi
  rw [h.follows.sound.find?_natCast, Store.get?_natCast, (h.coherent.settled h.depth).1]

/-- The sequence events of the call of a key are those of the accepted events of the key. -/
lemma FedBy.items_filter (h : x.FedBy flowShow p k log own) (hc : x.tap.callFor p k = some call) :
    (x.sequence.items.filter fun q => q.call = call) =
      own.map fun e => (⟨e, call⟩ : Entry).sequenceEvent := by
  have hentries : (log.filter fun a => a.call = call) =
      (eventsOf call log).map fun e => ⟨e, call⟩ := by
    unfold eventsOf
    rw [List.map_map]
    symm
    calc _ = (log.filter fun a => a.call = call).map id := by
          refine List.map_congr_left fun a ha => ?_
          have hcall : a.call = call := by simpa using (List.mem_filter.mp ha).2
          rw [← hcall]
          rfl
      _ = _ := List.map_id _
  rw [h.items, List.filter_map, ← h.own_eq, ← h.follows.eventsOf_eq hc]
  change (log.filter fun a => a.call = call).map _ = _
  rw [hentries, List.map_map]
  rfl

end FedBy

/-- Calls do not interfere.  Two lists of events in which the events of a key are the same either
both lead to a call of the key, or neither does.  If they do, the records of the two calls differ in
the number only, and so do their sequence events. -/
theorem feed_congr (flowShow : FlowShow) {es es' : List Event}
    (h : es.filter (Event.isOf p k) = es'.filter (Event.isOf p k)) :
    ((feed flowShow es).tap.callFor p k).isSome = ((feed flowShow es').tap.callFor p k).isSome ∧
    ∀ call call', (feed flowShow es).tap.callFor p k = some call →
      (feed flowShow es').tap.callFor p k = some call' →
      (∃ r, (feed flowShow es).store.find? call = some r ∧
        (feed flowShow es).store.get? call = some r ∧
        (feed flowShow es').store.find? call' = some { r with callId := call' } ∧
        (feed flowShow es').store.get? call' = some { r with callId := call' }) ∧
      ((feed flowShow es').sequence.items.filter fun q => q.call = call') =
        ((feed flowShow es).sequence.items.filter fun q => q.call = call).map
          fun q => { q with call := call' } := by
  obtain ⟨log, hx⟩ := exists_fedBy (p := p) (k := k) flowShow es
  obtain ⟨log', hx'⟩ := exists_fedBy (p := p) (k := k) flowShow es'
  rw [← h] at hx'
  refine ⟨?_, fun call call' hc hc' => ⟨?_, ?_⟩⟩
  · rw [hx.follows.isSome_callFor, hx'.follows.isSome_callFor, hx.own_eq, hx'.own_eq]
  · rw [hx.find?_eq hc, hx.get?_eq hc, hx'.find?_eq hc', hx'.get?_eq hc',
      CallRecord.ofEvents_renumbered call call']
    have hsome := hx.follows.isSome_callFor (p := p) (k := k)
    rw [hc, hx.own_eq] at hsome
    cases hr : CallRecord.ofEvents call
        ((es.filter (Event.isOf p k)).foldl (extended (Tap.opensCall { flowShow })) []) with
    | none =>
      rw [CallRecord.ofEvents_eq_none.mp hr] at hsome
      cases hsome
    | some r => exact ⟨r, rfl, rfl, rfl, rfl⟩
  · rw [hx.items_filter hc, hx'.items_filter hc', List.map_map]
    rfl

/-- Two packets of a dialog. -/
def dialog : List Event :=
  [{ protocol := .sip, frame := some 2, time := some (.whole 0), key := some (.text "a") },
    { protocol := .sip, frame := some 4, time := some (.whole 1), key := some (.text "a") }]

/-- The packets of the dialog among one of another dialog, which comes twice, and an event without
a key. -/
def interleaved : List Event :=
  [{ protocol := .sip, frame := some 1, time := some (.whole 0), key := some (.text "b") },
    { protocol := .sip, frame := some 2, time := some (.whole 0), key := some (.text "a") },
    { protocol := .sip, frame := some 1, time := some (.whole 0), key := some (.text "b") },
    { protocol := .sip, frame := some 3, time := some (.whole 1) },
    { protocol := .sip, frame := some 4, time := some (.whole 1), key := some (.text "a") }]

/-- The dialog has the number 0 where it comes alone and the number 1 where it is interleaved, and
that is all the difference. -/
theorem feed_interleaved :
    (feed .all dialog).tap.callFor .sip (.text "a") = some 0 ∧
    (feed .all interleaved).tap.callFor .sip (.text "a") = some 1 ∧
    (∃ r, (feed .all dialog).store.find? 0 = some r ∧
      (feed .all dialog).store.get? 0 = some r ∧
      (feed .all interleaved).store.find? 1 = some { r with callId := 1 } ∧
      (feed .all interleaved).store.get? 1 = some { r with callId := 1 }) ∧
    ((feed .all interleaved).sequence.items.filter fun q => q.call = 1) =
      ((feed .all dialog).sequence.items.filter fun q => q.call = 0).map
        fun q => { q with call := 1 } := by
  have hdialog : (feed .all dialog).tap.callFor .sip (.text "a") = some 0 := by decide
  have hinterleaved : (feed .all interleaved).tap.callFor .sip (.text "a") = some 1 := by decide
  have hsame : dialog.filter (Event.isOf .sip (.text "a")) =
      interleaved.filter (Event.isOf .sip (.text "a")) := by decide
  exact ⟨hdialog, hinterleaved,
    (feed_congr .all (k := .text "a") hsame).2 0 1 hdialog hinterleaved⟩

end Intake

end VoipCalls
