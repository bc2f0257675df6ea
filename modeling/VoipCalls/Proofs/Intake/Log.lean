import VoipCalls.Intake
import VoipCalls.Proofs.Store.Numbering

/-!
# The log of the accepted events

The intake keeps one account of what it has accepted in four places: the records of the store, the
calls of the keys, the packets that were seen, and the events of the sequence index.  All four
follow from the *log*, which is the list of the accepted events with the numbers of their calls.

`Intake.Follows` says how, and what is known about the four places together is read off the log.  It
is the one invariant of the intake.
-/

namespace VoipCalls

/-- The protocol and the correlation key of an event that has a key. -/
def Event.callKey (e : Event) : Protocol × CorrelationKey :=
  (e.protocol, e.key.getD .absent)

lemma Event.callKey_eq {e : Event} {k : CorrelationKey} (hkey : e.key = some k) :
    e.callKey = (e.protocol, k) := by
  rw [callKey, hkey]
  rfl

namespace Tap

variable {t : Tap} {p : Protocol} {k : CorrelationKey}

/-! ## Looking up a key -/

/-- A packet was taken already exactly if it is among those seen. -/
lemma hasSeen_iff {frame : Int} : t.hasSeen p k frame = true ↔ ⟨p, k, frame⟩ ∈ t.seen := by
  simp only [hasSeen, List.any_eq_true, Bool.and_eq_true, decide_eq_true_eq,
    CorrelationKey.agrees_iff]
  constructor
  · rintro ⟨⟨p', k', frame'⟩, hin, ⟨rfl, rfl⟩, rfl⟩
    exact hin
  · exact fun hin => ⟨_, hin, ⟨rfl, rfl⟩, rfl⟩

/-- The call of a key was registered for it. -/
lemma mem_of_callFor {call : Int} (h : t.callFor p k = some call) : ⟨p, k, call⟩ ∈ t.keys := by
  unfold callFor at h
  obtain ⟨⟨p', k', call'⟩, hfind, rfl⟩ := Option.map_eq_some_iff.mp h
  have hsome := List.find?_some hfind
  simp only [Bool.and_eq_true, decide_eq_true_eq, CorrelationKey.agrees_iff] at hsome
  obtain ⟨rfl, rfl⟩ := hsome
  exact List.mem_of_find?_eq_some hfind

/-- A key that a call was registered for has a call. -/
lemma exists_callFor_of_mem {call : Int} (h : ⟨p, k, call⟩ ∈ t.keys) :
    ∃ call', t.callFor p k = some call' := by
  have hsome : (t.keys.find? fun entry =>
      decide (entry.protocol = p) && entry.key.agrees k).isSome = true := by
    rw [List.find?_isSome]
    exact ⟨_, h, by simp⟩
  obtain ⟨entry, hentry⟩ := Option.isSome_iff_exists.mp hsome
  exact ⟨entry.call, by unfold callFor; rw [hentry]; rfl⟩

end Tap

namespace Intake

/-! ## The log -/

/-- An event that was accepted, with the number of its call. -/
structure Entry where
  event : Event
  call : Int
deriving DecidableEq

namespace Entry

/-- What the tap remembers about the call of an entry. -/
def keyEntry (a : Entry) : KeyEntry :=
  ⟨a.event.callKey.1, a.event.callKey.2, a.call⟩

/-- What the tap remembers about the packet of an entry. -/
def seenPacket (a : Entry) : SeenPacket :=
  ⟨a.event.callKey.1, a.event.callKey.2, a.event.frameNumber⟩

/-- What the flow diagram shows of an entry. -/
def sequenceEvent (a : Entry) : SequenceEvent :=
  Intake.sequenceEvent a.event a.call a.event.frameNumber a.event.seconds

end Entry

/-- The events of a call, in the order in which they were accepted. -/
def eventsOf (call : Int) (log : List Entry) : List Event :=
  (log.filter fun a => a.call = call).map (·.event)

/-- A sequence event, shown. -/
def shown (q : SequenceEvent) : SequenceEvent :=
  { q with display := true }

/-- The state of the intake follows from the log: each record amounts to the events of its call,
and the keys, the packets that were seen and the sequence index are those of the entries. -/
structure Follows (x : Intake) (log : List Entry) : Prop where
  /-- The counter and the index of the store are in step with its records. -/
  indexed : x.store.Indexed
  /-- The record at a place amounts to the events of the call of that number. -/
  records : ∀ i : ℕ, x.store.working[i]? = CallRecord.ofEvents i (eventsOf i log)
  /-- Only storable events with a key are accepted. -/
  complete : ∀ a ∈ log, a.event.isStorable = true ∧ a.event.key.isSome = true
  /-- The keys are those of the entries, in the order of their first acceptance. -/
  keys : x.tap.keys = (log.map Entry.keyEntry).eraseDups
  /-- The calls of the keys are numbered in that order. -/
  numbered : ∀ (i : ℕ) (entry : KeyEntry), x.tap.keys[i]? = some entry → entry.call = i
  /-- There are as many keys as records. -/
  length_keys : x.tap.keys.length = x.store.working.length
  /-- A key has one call. -/
  one_call : ∀ entry ∈ x.tap.keys, ∀ entry' ∈ x.tap.keys, entry.protocol = entry'.protocol →
    entry.key = entry'.key → entry = entry'
  /-- The packets that were seen are those of the entries. -/
  seen : x.tap.seen = log.map Entry.seenPacket
  /-- No packet is accepted twice. -/
  fresh : log.Pairwise fun a b => a.seenPacket ≠ b.seenPacket
  /-- The sequence index holds the events of the entries, in some order. -/
  events : (x.sequence.items.map shown).Perm (log.map Entry.sequenceEvent)

variable {x : Intake} {log : List Entry} {e : Event}

/-- One more entry is one more event of its call. -/
lemma eventsOf_concat (call : Int) (log : List Entry) (a : Entry) :
    eventsOf call (log ++ [a]) =
      if a.call = call then eventsOf call log ++ [a.event] else eventsOf call log := by
  unfold eventsOf
  rw [List.filter_append, List.map_append]
  by_cases ha : a.call = call <;> simp [ha]

/-- The events of a call are those of its entries. -/
lemma mem_eventsOf {call : Int} : e ∈ eventsOf call log ↔ (⟨e, call⟩ : Entry) ∈ log := by
  unfold eventsOf
  simp only [List.mem_map, List.mem_filter, decide_eq_true_eq]
  constructor
  · rintro ⟨⟨e, call⟩, ⟨hin, rfl⟩, rfl⟩
    exact hin
  · exact fun hin => ⟨_, ⟨hin, rfl⟩, rfl⟩

/-- An intake without records, keys, packets and sequence events follows the empty log. -/
lemma Follows.empty (hindexed : x.store.Indexed) (hw : x.store.working = [])
    (hkeys : x.tap.keys = []) (hseen : x.tap.seen = []) (hitems : x.sequence.items = []) :
    x.Follows [] where
  indexed := hindexed
  records i := by rw [hw]; rfl
  complete a ha := absurd ha List.not_mem_nil
  keys := hkeys
  numbered i entry h := by rw [hkeys] at h; cases h
  length_keys := by rw [hw, hkeys]; rfl
  one_call entry h := by rw [hkeys] at h; exact absurd h List.not_mem_nil
  seen := hseen
  fresh := List.Pairwise.nil
  events := by rw [hitems]; exact .refl []

/-- Only the calls, the keys, the packets that were seen and the sequence events matter, and of
these neither the order nor the visibility of the last. -/
lemma Follows.congr (h : x.Follows log) {y : Intake} (hcalls : y.store.SameCalls x.store)
    (hkeys : y.tap.keys = x.tap.keys) (hseen : y.tap.seen = x.tap.seen)
    (hitems : (y.sequence.items.map shown).Perm (x.sequence.items.map shown)) : y.Follows log where
  indexed := h.indexed.congr hcalls
  records := by rw [hcalls.working]; exact h.records
  complete := h.complete
  keys := by rw [hkeys]; exact h.keys
  numbered := by rw [hkeys]; exact h.numbered
  length_keys := by rw [hkeys, hcalls.working]; exact h.length_keys
  one_call := by rw [hkeys]; exact h.one_call
  seen := by rw [hseen]; exact h.seen
  fresh := h.fresh
  events := hitems.trans h.events

/-! ## What the log says about the store -/

/-- An entry was registered under its key. -/
lemma Follows.keyEntry_mem (h : x.Follows log) {a : Entry} (ha : a ∈ log) :
    a.keyEntry ∈ x.tap.keys := by
  rw [h.keys, List.mem_eraseDups]
  exact List.mem_map_of_mem ha

/-- What is registered under a key stems from an entry. -/
lemma Follows.exists_of_mem_keys (h : x.Follows log) {entry : KeyEntry}
    (hentry : entry ∈ x.tap.keys) : ∃ a ∈ log, a.keyEntry = entry := by
  rw [h.keys, List.mem_eraseDups] at hentry
  exact List.mem_map.mp hentry

/-- The calls of the keys are numbered from zero up to the number of records. -/
lemma Follows.exists_place (h : x.Follows log) {entry : KeyEntry} (hentry : entry ∈ x.tap.keys) :
    ∃ i : ℕ, entry.call = i ∧ i < x.store.working.length := by
  obtain ⟨i, hi⟩ := List.mem_iff_getElem?.mp hentry
  refine ⟨i, h.numbered i entry hi, ?_⟩
  rw [← h.length_keys]
  exact (List.getElem?_eq_some_iff.mp hi).1

/-- Every call that was created is registered. -/
lemma Follows.exists_keyEntry (h : x.Follows log) {i : ℕ} (hi : i < x.store.working.length) :
    ∃ entry ∈ x.tap.keys, entry.call = i := by
  rw [← h.length_keys] at hi
  have hentry := List.getElem?_eq_getElem hi
  exact ⟨_, List.mem_of_getElem? hentry, h.numbered i _ hentry⟩

/-- A call has one key. -/
lemma Follows.eq_of_call_eq (h : x.Follows log) {entry entry' : KeyEntry}
    (hentry : entry ∈ x.tap.keys) (hentry' : entry' ∈ x.tap.keys)
    (hcall : entry.call = entry'.call) : entry = entry' := by
  obtain ⟨i, hi⟩ := List.mem_iff_getElem?.mp hentry
  obtain ⟨j, hj⟩ := List.mem_iff_getElem?.mp hentry'
  have hij : (i : Int) = j := by rw [← h.numbered i entry hi, ← h.numbered j entry' hj, hcall]
  obtain rfl : i = j := Int.ofNat.inj hij
  rw [hi] at hj
  exact Option.some.inj hj

/-- The store of an intake that follows its log is sound. -/
lemma Follows.sound (h : x.Follows log) : x.store.Sound where
  toIndexed := h.indexed
  numbered i r hr := by
    rw [h.records] at hr
    exact CallRecord.callId_ofEvents hr
  kinded r hr := by
    obtain ⟨i, hi⟩ := List.mem_iff_getElem?.mp hr
    rw [h.records] at hi
    exact CallRecord.kind_ofEvents hi fun e he => (h.complete _ (mem_eventsOf.mp he)).1

/-- The record of the call of a key has the protocol of the key. -/
lemma Follows.exists_record (h : x.Follows log) {entry : KeyEntry} (hentry : entry ∈ x.tap.keys) :
    ∃ (i : ℕ) (r : CallRecord), entry.call = i ∧ x.store.working[i]? = some r ∧
      r.protocol = entry.protocol := by
  obtain ⟨i, hcall, hi⟩ := h.exists_place hentry
  have hr := List.getElem?_eq_getElem hi
  refine ⟨i, _, hcall, hr, ?_⟩
  rw [h.records] at hr
  obtain ⟨e, he, hp⟩ := CallRecord.protocol_ofEvents hr
  have hown := h.keyEntry_mem (mem_eventsOf.mp he)
  rw [hp, ← h.eq_of_call_eq hown hentry hcall.symm]
  rfl

/-- The call of a key is the one that is registered for it. -/
lemma Follows.callFor_eq_some (h : x.Follows log) {p : Protocol} {k : CorrelationKey}
    {call : Int} : x.tap.callFor p k = some call ↔ ⟨p, k, call⟩ ∈ x.tap.keys := by
  constructor
  · exact Tap.mem_of_callFor
  · intro hin
    obtain ⟨call', hcall'⟩ := Tap.exists_callFor_of_mem hin
    have heq := h.one_call _ (Tap.mem_of_callFor hcall') _ hin rfl rfl
    rw [hcall', (KeyEntry.mk.inj heq).2.2]

/-! ## What the log says about the sequence index -/

/-- A sequence event stems from an entry. -/
lemma Follows.exists_of_mem_items (h : x.Follows log) {q : SequenceEvent}
    (hq : q ∈ x.sequence.items) : ∃ a ∈ log, a.call = q.call ∧ a.event.frameNumber = q.frame := by
  have hin := h.events.subset (List.mem_map_of_mem hq)
  obtain ⟨a, ha, hshown⟩ := List.mem_map.mp hin
  refine ⟨a, ha, ?_, ?_⟩
  · change a.sequenceEvent.call = (shown q).call
    rw [hshown]
  · change a.sequenceEvent.frame = (shown q).frame
    rw [hshown]

/-- The call of a sequence event was created. -/
lemma Follows.knows_of_mem_items (h : x.Follows log) {q : SequenceEvent}
    (hq : q ∈ x.sequence.items) : x.store.knows q.call = true := by
  obtain ⟨a, ha, hcall, -⟩ := h.exists_of_mem_items hq
  rw [h.sound.knows_iff, ← hcall]
  exact h.exists_place (h.keyEntry_mem ha)

/-- Every call that was created has a sequence event. -/
lemma Follows.exists_item (h : x.Follows log) {i : ℕ} (hi : i < x.store.working.length) :
    ∃ q ∈ x.sequence.items, q.call = i := by
  obtain ⟨entry, hentry, hcall⟩ := h.exists_keyEntry hi
  obtain ⟨a, ha, rfl⟩ := h.exists_of_mem_keys hentry
  obtain ⟨q, hq, hshown⟩ := List.mem_map.mp (h.events.symm.subset (List.mem_map_of_mem ha))
  refine ⟨q, hq, ?_⟩
  calc q.call = (shown q).call := rfl
    _ = a.keyEntry.call := by rw [hshown]; rfl
    _ = i := hcall

end Intake

end VoipCalls
