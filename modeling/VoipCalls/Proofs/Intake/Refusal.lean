import VoipCalls.Proofs.Intake.Acceptance
import VoipCalls.Proofs.Store.Overflow

/-!
# Events that are not accepted

Taking an event is all or nothing.  An accepted event is entered in the store, in the sequence
index, under its key and among the packets that were seen, and any other event changes nothing but
one counter of the tap (`Intake.packet_allOrNothing`).  Nothing is taken back for that: what was
written before an event is given up stays written, but all questions are asked, and all numbers
read, before the first write (`Store.upsert_eq`, `Intake.outcome_accept`).  The second half holds in
every state, also in those that no run leads to.

An event that is not accepted is counted as malformed or as ignored, unless it was seen before or
the tap is detached.  There is one exception: an event that would have been accepted at another time
is refused without being counted exactly if its time is beyond the range of doubles
(`Intake.packet_timeOverflow_iff`).
-/

namespace VoipCalls

namespace Intake

variable {x : Intake} {e : Event}

/-! ## What the verdicts mean -/

/-- The verdict tells the answers of the store apart. -/
lemma answered_accepted_iff {answer : Except Refusal Int} :
    (x.answered e answer).1 = .accepted ↔ ∃ call, answer = .ok call := by
  rcases answer with (cause | _ | kind) | call <;> simp [answered]

lemma answered_timeOverflow_iff {answer : Except Refusal Int} :
    (x.answered e answer).1 = .timeOverflow ↔ answer = .error .timeOverflow := by
  rcases answer with (cause | _ | kind) | call <;> simp [answered]

/-- Only the answer of the store lets an event be accepted, or refused for its time. -/
lemma packet_fst_iff {verdict : Verdict} (h : verdict = .accepted ∨ verdict = .timeOverflow) :
    (x.packet e).1 = verdict ↔
      x.Passes e ∧ (x.answered e (x.store.upsert e (x.knownCall e)).1).1 = verdict := by
  constructor
  · intro hverdict
    have hpass : x.Passes e := by
      cases x.fate e with
      | passed hpass => exact hpass
      | detached _ hpacket | keyless _ _ hpacket | duplicate _ _ _ _ _ hpacket
      | ignored _ _ _ _ hpacket =>
        rw [hpacket] at hverdict
        rcases h with rfl | rfl <;> cases hverdict
    rw [hpass.packet_eq] at hverdict
    exact ⟨hpass, hverdict⟩
  · rintro ⟨hpass, hverdict⟩
    rw [hpass.packet_eq]
    exact hverdict

/-- An event is accepted exactly if it gets as far as the store and the store takes it. -/
lemma packet_accepted_iff :
    (x.packet e).1 = .accepted ↔
      x.Passes e ∧ ∃ call, (x.store.upsert e (x.knownCall e)).1 = .ok call := by
  rw [packet_fst_iff (Or.inl rfl), answered_accepted_iff]

/-- An event is refused for its time exactly if it gets as far as the store and the store refuses it
for that. -/
lemma packet_refused_iff :
    (x.packet e).1 = .timeOverflow ↔
      x.Passes e ∧ (x.store.upsert e (x.knownCall e)).1 = .error .timeOverflow := by
  rw [packet_fst_iff (Or.inr rfl), answered_timeOverflow_iff]

/-- An event that is not accepted is counted once, or it changes nothing at all: because the tap is
detached, because its packet was seen before, or because of its time. -/
lemma packet_of_ne_accepted (h : (x.packet e).1 ≠ .accepted) :
    ((x.packet e).2 = x ∧ (x.tap.attached = false ∨
      (∃ frame, e.frame = some frame ∧
        x.tap.hasSeen e.callKey.1 e.callKey.2 frame = true) ∨
      (x.packet e).1 = .timeOverflow)) ∨
    (x.packet e).2 = x.countMalformed ∨ (x.packet e).2 = x.countIgnored := by
  cases x.fate e with
  | detached hatt hpacket =>
    rw [hpacket]
    exact Or.inl ⟨rfl, Or.inl hatt⟩
  | keyless _ _ hpacket =>
    rw [hpacket]
    exact Or.inr (Or.inl rfl)
  | duplicate _ _ frame hframe hseen hpacket =>
    rw [hpacket]
    exact Or.inl ⟨rfl, Or.inr (Or.inl ⟨frame, hframe, hseen⟩)⟩
  | ignored _ _ _ _ hpacket =>
    rw [hpacket]
    exact Or.inr (Or.inr rfl)
  | passed _ hpacket =>
    rw [hpacket] at h ⊢
    cases hanswer : (x.store.upsert e (x.knownCall e)).1 with
    | ok call =>
      rw [hanswer] at h
      exact absurd rfl h
    | error refusal =>
      cases refusal with
      | malformed cause => exact Or.inr (Or.inl rfl)
      | timeOverflow => exact Or.inl ⟨rfl, Or.inr (Or.inr rfl)⟩
      | missingNumber kind => exact absurd hanswer (Store.upsert_ne_missingNumber kind)

/-- So it changes at most the counters. -/
lemma exists_counting (h : (x.packet e).1 ≠ .accepted) :
    ∃ malformed ignored, (x.packet e).2 = x.counting malformed ignored := by
  rcases packet_of_ne_accepted h with ⟨hx, -⟩ | hx | hx <;> rw [hx] <;> exact ⟨_, _, rfl⟩

/-- An event that is accepted got as far as the store, and is brought in under the number that the
store has answered. -/
lemma exists_of_accepted (h : (x.packet e).1 = .accepted) :
    x.Passes e ∧ ∃ call, (x.store.upsert e (x.knownCall e)).1 = .ok call ∧
      (x.packet e).2 = x.admittedAs e call := by
  obtain ⟨hpass, call, hcall⟩ := packet_accepted_iff.mp h
  rw [hpass.packet_eq, hcall]
  exact ⟨hpass, call, rfl, rfl⟩

/-- If the store is sound, that is the number of the call of its key or the next one. -/
lemma packet_of_accepted (hs : x.store.Sound) (h : (x.packet e).1 = .accepted) :
    x.Passes e ∧ (x.packet e).2 = x.admitted e := by
  obtain ⟨hpass, call, hcall, hpacket⟩ := exists_of_accepted h
  obtain rfl : call = (x.entry e).call := hs.eq_of_upsert hcall
  exact ⟨hpass, hpacket⟩

/-! ## All or nothing -/

/-- An intake `y` that has taken in an event in full, where `x` is the one before. -/
structure TakenIn (x : Intake) (e : Event) (y : Intake) : Prop where
  /-- The store has the event, in the record of the call of its key or in a new one. -/
  stored : x.store.upsert e (x.knownCall e) = (.ok (x.entry e).call, y.store)
  /-- The sequence index has it as its last event. -/
  sequence : y.sequence = x.sequence.append (x.entry e).sequenceEvent
  /-- The key leads to the call. -/
  registered : (x.entry e).keyEntry ∈ y.tap.keys
  /-- The packet counts as seen. -/
  seen : (x.entry e).seenPacket ∈ y.tap.seen
  /-- The table has to be redrawn. -/
  redraw : y.tap.redraw = true
  /-- Nothing is counted. -/
  counters : y.tap.malformed = x.tap.malformed ∧ y.tap.ignored = x.tap.ignored

/-- An intake `y` that is the same as `x` but for one counter, which may have gone up by one. -/
structure Untouched (x y : Intake) : Prop where
  /-- The working records are the same. -/
  working : y.store.working = x.store.working
  /-- Readers see the same records. -/
  published : y.store.published = x.store.published
  /-- The next call has the same number. -/
  nextId : y.store.nextId = x.store.nextId
  /-- The index of the records is the same. -/
  places : y.store.places = x.store.places
  /-- The same records are noted as revised, and as many batches are open. -/
  batch : y.store.dirty = x.store.dirty ∧ y.store.depth = x.store.depth
  /-- The keys have the same calls. -/
  keys : y.tap.keys = x.tap.keys
  /-- The same packets were seen. -/
  seen : y.tap.seen = x.tap.seen
  /-- The flow diagram is the same. -/
  sequence : y.sequence = x.sequence
  /-- A redraw is due if it was. -/
  redraw : y.tap.redraw = x.tap.redraw
  /-- At most one counter went up, and by one. -/
  counters :
    (y.tap.malformed = x.tap.malformed ∧ y.tap.ignored = x.tap.ignored) ∨
    (y.tap.malformed = x.tap.malformed + 1 ∧ y.tap.ignored = x.tap.ignored) ∨
    (y.tap.malformed = x.tap.malformed ∧ y.tap.ignored = x.tap.ignored + 1)

lemma Untouched.refl (x : Intake) : x.Untouched x :=
  ⟨rfl, rfl, rfl, rfl, ⟨rfl, rfl⟩, rfl, rfl, rfl, rfl, Or.inl ⟨rfl, rfl⟩⟩

lemma untouched_countMalformed (x : Intake) : x.Untouched x.countMalformed :=
  ⟨rfl, rfl, rfl, rfl, ⟨rfl, rfl⟩, rfl, rfl, rfl, rfl, Or.inr (Or.inl ⟨rfl, rfl⟩)⟩

lemma untouched_countIgnored (x : Intake) : x.Untouched x.countIgnored :=
  ⟨rfl, rfl, rfl, rfl, ⟨rfl, rfl⟩, rfl, rfl, rfl, rfl, Or.inr (Or.inr ⟨rfl, rfl⟩)⟩

/-- The call of the entry is the one that its key has afterwards. -/
lemma keyEntry_mem_taken (x : Intake) (e : Event) :
    (x.entry e).keyEntry ∈ (x.admitted e).tap.keys := by
  cases hcall : x.knownCall e with
  | some call =>
    rw [keys_of_known hcall, Entry.keyEntry, call_entry_of_known hcall]
    exact Tap.mem_of_callFor hcall
  | none =>
    rw [keys_of_new hcall]
    exact List.mem_concat_self

/-- The packet of the entry is among those that were seen afterwards. -/
lemma seenPacket_mem_taken (x : Intake) (e : Event) (call : Int) :
    (x.entry e).seenPacket ∈ (x.admittedAs e call).tap.seen := by
  change _ ∈ if x.tap.hasSeen e.callKey.1 e.callKey.2 e.frameNumber then x.tap.seen
    else x.tap.seen ++ [(x.entry e).seenPacket]
  split
  · rename_i hseen
    exact Tap.hasSeen_iff.mp hseen
  · exact List.mem_concat_self

/-- An event that a sound store answers with a number is taken in. -/
lemma takenIn_admitted (hs : x.store.Sound) {call : Int}
    (h : (x.store.upsert e (x.knownCall e)).1 = .ok call) : x.TakenIn e (x.admitted e) where
  stored := by
    obtain rfl : call = (x.entry e).call := hs.eq_of_upsert h
    exact Prod.ext h rfl
  sequence := rfl
  registered := keyEntry_mem_taken x e
  seen := seenPacket_mem_taken x e _
  redraw := rfl
  counters := ⟨rfl, rfl⟩

/-- Taking an event is all or nothing: it is taken in in full, or nothing but one counter changes.
So it is in the store alone, whatever event is refused there and whatever call is named. -/
theorem packet_allOrNothing (x : Intake) (e : Event) :
    (x.store.Sound → (x.packet e).1 = .accepted → x.TakenIn e (x.packet e).2) ∧
    ((x.packet e).1 ≠ .accepted → x.Untouched (x.packet e).2) ∧
    ∀ (s : Store) (id? : Option Int) (refusal : Refusal),
      (s.upsert e id?).1 = .error refusal → (s.upsert e id?).2 = s := by
  refine ⟨fun hs h => ?_, fun h => ?_, fun s id? refusal => Store.upsert_refused⟩
  · obtain ⟨-, call, hcall⟩ := packet_accepted_iff.mp h
    rw [(packet_of_accepted hs h).2]
    exact takenIn_admitted hs hcall
  · rcases packet_of_ne_accepted h with ⟨hsame, -⟩ | hcounted | hcounted
    · rw [hsame]
      exact .refl x
    · rw [hcounted]
      exact untouched_countMalformed x
    · rw [hcounted]
      exact untouched_countIgnored x

/-- An event that opens a call. -/
def opening : Event :=
  { protocol := .mgcp, frame := some 1, time := some (.whole 0), key := some (.text "a") }

/-- An event of the key of the call with a payload of another protocol. -/
def clashing : Event :=
  { protocol := .mgcp, frame := some 2, time := some (.whole 1), key := some (.text "a"),
    payload := some Protocol.sip.emptyPayload }

/-- An intake with an open batch that has taken a call which readers do not see yet. -/
def midBatch : Intake :=
  (({ store := ({} : Store).enter } : Intake).packet opening).2

/-- The call was taken in, the clash of payloads touches neither the call nor the store, and a call
that was never created cannot be revised. -/
theorem packet_midBatch :
    ({ store := ({} : Store).enter } : Intake).TakenIn opening midBatch ∧
    midBatch.Untouched (midBatch.packet clashing).2 ∧
    (midBatch.packet clashing).2.tap.malformed = 1 ∧
    (midBatch.store.upsert opening (some 7)).2 = midBatch.store :=
  ⟨(packet_allOrNothing { store := ({} : Store).enter } opening).1
      (Store.Sound.empty.congr (Store.sameCalls_enter {})) (by decide),
    (packet_allOrNothing midBatch clashing).2.1 (by decide), by decide,
    (packet_allOrNothing midBatch opening).2.2 midBatch.store (some 7) (.malformed (.unknownCall 7))
      (by decide)⟩

/-! ## Times beyond the range of doubles -/

/-- The time of an event has no part in whether it gets as far as the store. -/
lemma passes_at_iff (t : Double) : x.Passes (e.at t) ↔ x.Passes e :=
  ⟨fun h => ⟨h.attached, h.keyed, h.fresh, h.welcome⟩,
    fun h => ⟨h.attached, h.keyed, h.fresh, h.welcome⟩⟩

/-- An event is refused for its time exactly if the time is too large for a double and the event
would be accepted at another one. -/
lemma packet_overflows_iff (t : Double) :
    (x.packet e).1 = .timeOverflow ↔ e.Overflows ∧ (x.packet (e.at t)).1 = .accepted := by
  have hknown : x.knownCall (e.at t) = x.knownCall e := rfl
  rw [packet_refused_iff, packet_accepted_iff, passes_at_iff, hknown,
    x.store.upsert_timeOverflow_iff e (x.knownCall e) t]
  exact and_left_comm

/-- An event is refused for its time exactly if the time is too large for a double and the event
would be accepted at another one.  Then nothing is counted.  Any other event that is not accepted is
counted, unless the tap is detached or the packet was seen before. -/
theorem packet_timeOverflow_iff (x : Intake) (e : Event) (t : Double) :
    ((x.packet e).1 = .timeOverflow ↔ e.Overflows ∧ (x.packet (e.at t)).1 = .accepted) ∧
    ((x.packet e).1 = .timeOverflow → (x.packet e).2 = x) ∧
    ((x.packet e).1 ≠ .accepted → (x.packet e).1 ≠ .timeOverflow →
      x.tap.attached = false ∨
      (∃ frame, e.frame = some frame ∧ x.tap.hasSeen e.callKey.1 e.callKey.2 frame = true) ∨
      (x.packet e).2 = x.countMalformed ∨ (x.packet e).2 = x.countIgnored) := by
  refine ⟨packet_overflows_iff t, fun h => ?_, fun haccepted htime => ?_⟩
  · obtain ⟨hpass, hrefused⟩ := packet_refused_iff.mp h
    rw [hpass.packet_eq, hrefused]
    rfl
  · rcases packet_of_ne_accepted haccepted with ⟨-, hdetached | hseen | hrefused⟩ | hcounted
    · exact Or.inl hdetached
    · exact Or.inr (Or.inl hseen)
    · exact absurd hrefused htime
    · exact Or.inr (Or.inr hcounted)

/-- An event that would open a call, with a time that is too large for a double. -/
def beyond : Event :=
  { opening with time := some (.whole (Number.twoTo 1024)) }

lemma beyond_overflows : beyond.Overflows := by
  refine ⟨Number.twoTo 1024, rfl, ?_⟩
  rw [Int.natAbs_natCast]
  exact Nat.sub_le _ _

/-- A new intake refuses the event and counts nothing. -/
theorem packet_beyond :
    (({} : Intake).packet beyond).1 = .timeOverflow ∧ (({} : Intake).packet beyond).2 = {} := by
  have hat : (({} : Intake).packet (beyond.at .zero)).1 = .accepted := by decide
  have hrefused := (packet_overflows_iff .zero).mpr ⟨beyond_overflows, hat⟩
  refine ⟨hrefused, ?_⟩
  obtain ⟨hpass, hanswer⟩ := packet_refused_iff.mp hrefused
  rw [hpass.packet_eq, hanswer]
  rfl

/-- It is refused for its time, whereas a clash of payloads is counted. -/
theorem packet_beyond_clashing :
    (({} : Intake).packet beyond).1 = .timeOverflow ∧
    (({} : Intake).packet beyond).2.tap.malformed = 0 ∧
    (midBatch.packet clashing).2 = midBatch.countMalformed := by
  have hat : (({} : Intake).packet (beyond.at .zero)).1 = .accepted := by decide
  obtain ⟨hiff, hkept, -⟩ := packet_timeOverflow_iff {} beyond .zero
  have hrefused := hiff.mpr ⟨beyond_overflows, hat⟩
  refine ⟨hrefused, ?_, ?_⟩
  · rw [hkept hrefused]
  · rcases (packet_timeOverflow_iff midBatch clashing .zero).2.2 (by decide) (by decide) with
      hdetached | ⟨frame, hframe, hseen⟩ | hcounted | hcounted
    · exact absurd hdetached (by decide)
    · obtain rfl : 2 = frame := Option.some.inj hframe
      exact absurd hseen (by decide)
    · exact hcounted
    · exact absurd hcounted (by decide)

end Intake

end VoipCalls
