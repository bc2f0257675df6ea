import VoipCalls.Proofs.Session.Runs

/-!
# The bookkeeping of a session

The call of each key, the packets that were seen, the records and the sequence events are kept in
three places by three parts of a session.  `Intake.InStep` says how they stand to the events that
were accepted since a capture was last opened: which number each key has, whom each sequence event
belongs to, and what each record counts.

It is read off the log of the accepted events (`Follows.inStep`), so that it holds after every run
of a session (`Session.run_inStep`).
-/

namespace VoipCalls

namespace Intake

/-- The sequence event of an accepted event, with the call that its key has now. -/
def drawnEvent (x : Intake) (e : Event) : SequenceEvent :=
  sequenceEvent e ((x.knownCall e).getD 0) e.frameNumber e.seconds

/-- The keys, the packets that were seen, the records and the sequence events are in step with the
accepted events. -/
structure InStep (x : Intake) (accepted : List Event) : Prop where
  /-- The call of a key is its place in the order of first acceptance. -/
  lookup : ∀ p k, x.tap.callFor p k =
    ((accepted.map Event.callKey).eraseDups.idxOf? (p, k)).map fun i : ℕ => (i : Int)
  /-- Different keys have different calls. -/
  one_to_one : ∀ p k p' k' call, x.tap.callFor p k = some call → x.tap.callFor p' k' = some call →
    p = p' ∧ k = k'
  /-- The calls of the keys are numbered from zero up to the number of records. -/
  onto : ∀ call, (∃ p k, x.tap.callFor p k = some call) ↔
    ∃ i : ℕ, call = i ∧ i < x.store.working.length
  /-- Each accepted event has a key, and the key has a call. -/
  registered : ∀ e ∈ accepted, ∃ k call, e.key = some k ∧ x.tap.callFor e.protocol k = some call
  /-- The sequence index holds one event for each accepted event, with the call of its key. -/
  sequence : (x.sequence.items.map shown).Perm (accepted.map x.drawnEvent)
  /-- The calls of the sequence events were created. -/
  known : ∀ q ∈ x.sequence.items, x.store.knows q.call = true
  /-- No packet is noted twice. -/
  seen_nodup : x.tap.seen.Nodup
  /-- A record counts the sequence events of its call, and the packets that were seen of its key. -/
  counted : ∀ r ∈ x.store.working, ∃ p k, x.tap.callFor p k = some r.callId ∧
    r.packetCount = x.sequence.items.countP (fun q => q.call = r.callId) ∧
    r.packetCount = x.tap.seen.countP fun packet => packet.protocol = p ∧ packet.key = k

variable {x : Intake} {log : List Entry}

/-! ## The keys -/

/-- The protocol and the key that a call is registered for. -/
def pairOf (entry : KeyEntry) : Protocol × CorrelationKey :=
  (entry.protocol, entry.key)

/-- The keys in the order of their first acceptance. -/
lemma Follows.map_pairOf_keys (h : x.Follows log) :
    x.tap.keys.map pairOf = ((log.map (·.event)).map Event.callKey).eraseDups := by
  have hinj : ∀ entry ∈ log.map Entry.keyEntry, ∀ entry' ∈ log.map Entry.keyEntry,
      pairOf entry = pairOf entry' → entry = entry' := by
    intro entry hentry entry' hentry' hpair
    rw [← List.mem_eraseDups, ← h.keys] at hentry hentry'
    obtain ⟨hp, hk⟩ := Prod.mk.inj hpair
    exact h.one_call entry hentry entry' hentry' hp hk
  rw [h.keys, ← eraseDups_map hinj, List.map_map, List.map_map]
  rfl

/-- A key has the call that is numbered by its place. -/
lemma Follows.callFor_eq_some_iff_place (h : x.Follows log) {p : Protocol} {k : CorrelationKey}
    {call : Int} : x.tap.callFor p k = some call ↔
      ∃ i : ℕ, call = i ∧ ((log.map (·.event)).map Event.callKey).eraseDups[i]? = some (p, k) := by
  rw [h.callFor_eq_some, ← h.map_pairOf_keys]
  constructor
  · intro hin
    obtain ⟨i, hi⟩ := List.mem_iff_getElem?.mp hin
    exact ⟨i, h.numbered i _ hi, by rw [List.getElem?_map, hi]; rfl⟩
  · rintro ⟨i, rfl, hi⟩
    rw [List.getElem?_map] at hi
    obtain ⟨entry, hentry, hpair⟩ := Option.map_eq_some_iff.mp hi
    obtain ⟨rfl, rfl⟩ := Prod.mk.inj hpair
    rw [← h.numbered i entry hentry]
    exact List.mem_of_getElem? hentry

/-- The key of an entry has the call of the entry. -/
lemma Follows.knownCall_of_mem (h : x.Follows log) {a : Entry} (ha : a ∈ log) :
    x.knownCall a.event = some a.call :=
  h.callFor_eq_some.mpr (h.keyEntry_mem ha)

/-- Every call that was created is that of a key. -/
lemma Follows.exists_callFor (h : x.Follows log) {i : ℕ} (hi : i < x.store.working.length) :
    ∃ p k, x.tap.callFor p k = some (i : Int) := by
  obtain ⟨entry, hentry, hcall⟩ := h.exists_keyEntry hi
  refine ⟨entry.protocol, entry.key, h.callFor_eq_some.mpr ?_⟩
  rw [← hcall]
  exact hentry

/-! ## The sequence events -/

/-- The sequence events are those of the accepted events. -/
lemma Follows.perm_drawnEvent (h : x.Follows log) :
    (x.sequence.items.map shown).Perm ((log.map (·.event)).map x.drawnEvent) := by
  have hdrawn : log.map Entry.sequenceEvent = (log.map (·.event)).map x.drawnEvent := by
    rw [List.map_map]
    refine List.map_congr_left fun a ha => ?_
    rw [Function.comp_apply, drawnEvent, h.knownCall_of_mem ha]
    rfl
  rw [← hdrawn]
  exact h.events

/-- There are as many sequence events of a call as entries. -/
lemma Follows.countP_items (h : x.Follows log) (call : Int) :
    x.sequence.items.countP (fun q => q.call = call) = (eventsOf call log).length := by
  have hcount := h.events.countP_eq fun q => decide (q.call = call)
  rw [List.countP_map, List.countP_map] at hcount
  rw [eventsOf, List.length_map, ← List.countP_eq_length_filter]
  exact hcount

/-! ## The packets that were seen -/

/-- No packet is noted twice. -/
lemma Follows.nodup_seen (h : x.Follows log) : x.tap.seen.Nodup := by
  rw [h.seen, List.Nodup, List.pairwise_map]
  exact h.fresh

/-- There are as many packets of the key of a call as entries. -/
lemma Follows.countP_seen (h : x.Follows log) {p : Protocol} {k : CorrelationKey} {call : Int}
    (hc : x.tap.callFor p k = some call) :
    x.tap.seen.countP (fun packet => packet.protocol = p ∧ packet.key = k) =
      (eventsOf call log).length := by
  have hin := Tap.mem_of_callFor hc
  rw [h.seen, List.countP_map, eventsOf, List.length_map, ← List.countP_eq_length_filter]
  refine List.countP_congr fun a ha => ?_
  have hown := h.keyEntry_mem ha
  simp only [Function.comp_apply, decide_eq_true_eq]
  constructor
  · rintro ⟨hp, hkey⟩
    exact (KeyEntry.mk.inj (h.one_call _ hown _ hin hp hkey)).2.2
  · intro hcall
    obtain ⟨hp, hkey, -⟩ := KeyEntry.mk.inj (h.eq_of_call_eq hown hin hcall)
    exact ⟨hp, hkey⟩

/-! ## All are in step -/

/-- An intake that follows from a log is in step with the events of the log. -/
theorem Follows.inStep (h : x.Follows log) : x.InStep (log.map (·.event)) where
  lookup p k := by
    refine Option.ext fun call => ?_
    rw [h.callFor_eq_some_iff_place, Option.map_eq_some_iff]
    constructor
    · rintro ⟨i, rfl, hi⟩
      exact ⟨i, idxOf?_eraseDups.mpr hi, rfl⟩
    · rintro ⟨i, hi, rfl⟩
      exact ⟨i, rfl, idxOf?_eraseDups.mp hi⟩
  one_to_one p k p' k' call hc hc' := by
    have hsame := h.eq_of_call_eq (Tap.mem_of_callFor hc) (Tap.mem_of_callFor hc') rfl
    obtain ⟨hp, hk, -⟩ := KeyEntry.mk.inj hsame
    exact ⟨hp, hk⟩
  onto call := by
    constructor
    · rintro ⟨p, k, hc⟩
      exact h.exists_place (Tap.mem_of_callFor hc)
    · rintro ⟨i, rfl, hi⟩
      exact h.exists_callFor hi
  registered e he := by
    obtain ⟨a, ha, rfl⟩ := List.mem_map.mp he
    obtain ⟨k, hk⟩ := Option.isSome_iff_exists.mp (h.complete a ha).2
    have hc := h.knownCall_of_mem ha
    rw [knownCall_eq hk] at hc
    exact ⟨k, a.call, hk, hc⟩
  sequence := h.perm_drawnEvent
  known q hq := h.knows_of_mem_items hq
  seen_nodup := h.nodup_seen
  counted r hr := by
    obtain ⟨i, hi⟩ := List.mem_iff_getElem?.mp hr
    have hid := h.sound.numbered i r hi
    obtain ⟨p, k, hc⟩ := h.exists_callFor (List.getElem?_eq_some_iff.mp hi).1
    rw [h.records] at hi
    rw [hid, CallRecord.packetCount_ofEvents hi]
    refine ⟨p, k, hc, ?_, ?_⟩
    · rw [h.countP_items]
    · rw [h.countP_seen hc]

end Intake

namespace Session

/-- After every run of a session the keys, the packets that were seen, the records and the sequence
events are in step with the events accepted since a capture was last opened, and the call of a key
stays the same until a capture is opened. -/
theorem run_inStep (settings : Settings) (allFlows : Option Bool) (ops : List Operation) :
    ((Session.new settings allFlows).run ops).intake.InStep
      ((Session.new settings allFlows).acceptedSince [] ops) ∧
    ∀ later, .openCapture ∉ later → ∀ p k call,
      ((Session.new settings allFlows).run ops).intake.tap.callFor p k = some call →
      ((Session.new settings allFlows).run (ops ++ later)).intake.tap.callFor p k = some call := by
  obtain ⟨log, hlog, hmap⟩ := exists_follows_run settings allFlows ops
  refine ⟨?_, fun later hlater p k call hc => ?_⟩
  · rw [← hmap]
    exact hlog.intake.inStep
  · obtain ⟨log', hlog', -, hgrows⟩ := hlog.exists_run later
    obtain ⟨a, ha, hentry⟩ := hlog.intake.exists_of_mem_keys (Tap.mem_of_callFor hc)
    rw [run_append, hlog'.intake.callFor_eq_some, ← hentry]
    exact hlog'.intake.keyEntry_mem ((hgrows hlater).subset ha)

/-- In a batch two calls are opened and one of them goes on, after a packet that comes twice.  A
packet that comes after the capture was closed is not taken. -/
def gathering : List Operation :=
  [.openCapture, .enter,
    .packet { protocol := .mgcp, frame := some 2, time := some (.whole 0), key := some (.whole 7) },
    .packet { protocol := .h248, frame := some 1, time := some (.whole 0), key := some (.whole 7) },
    .packet { protocol := .mgcp, frame := some 2, time := some (.whole 1), key := some (.whole 7) },
    .draw,
    .packet { protocol := .mgcp, frame := some 4, time := some (.whole 1), key := some (.whole 7) },
    .leave, .showSequence [1], .prepareFilter [0, 1], .closeCapture,
    .packet { protocol := .mgcp, frame := some 5, time := some (.whole 1), key := some (.whole 7) }]

/-- The session is in step with the three packets that were accepted, and the second call keeps its
number. -/
theorem run_gathering :
    ((Session.new {} none).run gathering).intake.InStep
      ((Session.new {} none).acceptedSince [] gathering) ∧
    ((Session.new {} none).acceptedSince [] gathering).map (·.frame) = [some 2, some 1, some 4] ∧
    ((Session.new {} none).run gathering).intake.store.working.map (·.packetCount) = [2, 1] ∧
    ((Session.new {} none).run (gathering ++ [.refresh, .enter])).intake.tap.callFor .h248
      (.whole 7) = some 1 := by
  have hcall : ((Session.new {} none).run gathering).intake.tap.callFor .h248 (.whole 7) =
      some 1 := by decide
  exact ⟨(run_inStep {} none gathering).1, by decide, by decide,
    (run_inStep {} none gathering).2 [.refresh, .enter] (by decide) _ _ _ hcall⟩

end Session

end VoipCalls
