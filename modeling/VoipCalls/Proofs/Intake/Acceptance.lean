import VoipCalls.Proofs.FirstOccurrences
import VoipCalls.Proofs.Intake.Log

/-!
# The acceptance of events

Everything that can become of an event, in whatever state the intake is, is said once, in
`Intake.fate`: it is turned away for a reason of its own, or it gets as far as the store, and then
the answer of the store decides.

In an intake that follows its log the answer is known beforehand, and `Intake.admits` tells which
events are accepted.  An event that is accepted adds an entry to the log, and any other one changes
nothing but the two counters of the tap (`Follows.packet_cases`).  Both keep the invariant of the
intake (`Follows.packet`).
-/

namespace VoipCalls

namespace Intake

variable {x : Intake} {log : List Entry} {e : Event}

/-! ## Which events are accepted -/

/-- The number of the call that the key of an event has. -/
def knownCall (x : Intake) (e : Event) : Option Int :=
  x.tap.callFor e.callKey.1 e.callKey.2

/-- Whether an event is accepted: it has a key, can be stored, was not seen before, and belongs to a
call or may open one. -/
def admits (x : Intake) (e : Event) : Bool :=
  x.tap.attached && e.key.isSome && e.isStorable &&
    !x.tap.hasSeen e.callKey.1 e.callKey.2 e.frameNumber &&
    ((x.knownCall e).isSome || x.tap.opensCall e)

/-- The entry of an event that is accepted. -/
def entry (x : Intake) (e : Event) : Entry :=
  ⟨e, (x.knownCall e).getD x.store.nextId⟩

/-- The tap after it took a packet of a call; `known` says whether the key had a call before. -/
def taken (x : Intake) (a : Entry) (known : Bool) : Tap :=
  { x.tap with
    keys := if known then x.tap.keys else x.tap.keys ++ [a.keyEntry]
    seen :=
      if x.tap.hasSeen a.event.callKey.1 a.event.callKey.2 a.event.frameNumber then x.tap.seen
      else x.tap.seen ++ [a.seenPacket]
    redraw := true }

/-- The intake after it has brought in an event that the store has given a number. -/
def admittedAs (x : Intake) (e : Event) (call : Int) : Intake where
  store := (x.store.upsert e (x.knownCall e)).2
  sequence := x.sequence.append (⟨e, call⟩ : Entry).sequenceEvent
  tap := x.taken ⟨e, call⟩ (x.knownCall e).isSome

/-- The intake after it has accepted an event. -/
def admitted (x : Intake) (e : Event) : Intake :=
  x.admittedAs e (x.entry e).call

/-- The intake with other counters. -/
def counting (x : Intake) (malformed ignored : ℕ) : Intake :=
  { x with tap := { x.tap with malformed, ignored } }

/-! ## What becomes of an event -/

/-- Whether an event gets as far as the store. -/
structure Passes (x : Intake) (e : Event) : Prop where
  /-- The tap is attached. -/
  attached : x.tap.attached = true
  /-- The event has a key. -/
  keyed : e.key.isSome = true
  /-- Its packet was not taken before. -/
  fresh : ∀ frame, e.frame = some frame →
    x.tap.hasSeen e.callKey.1 e.callKey.2 frame = false
  /-- It belongs to a call or may open one. -/
  welcome : (x.knownCall e).isSome = true ∨ x.tap.opensCall e = true

/-- What the answer of the store to an event leads to. -/
def answered (x : Intake) (e : Event) : Except Refusal Int → Verdict × Intake
  | .error (.malformed cause) => (.malformed cause, x.countMalformed)
  | .error .timeOverflow => (.timeOverflow, x)
  | .error (.missingNumber kind) => (.missingNumber kind, x)
  | .ok call => (.accepted, x.admittedAs e call)

lemma knownCall_eq {k : CorrelationKey} (hkey : e.key = some k) :
    x.knownCall e = x.tap.callFor e.protocol k := by
  rw [knownCall, Event.callKey_eq hkey]

/-- Reading a frame that is there leaves the intake alone. -/
lemma outcome_readWhole {frame : Int} (x : Intake) :
    (readWhole (some frame)).outcome x = (.ok frame, x) := rfl

/-- So does reading a time that a double can hold. -/
lemma outcome_readReal {raw : RawTime} {time : Double} (h : raw.toDouble? = some time)
    (x : Intake) : (readReal (some raw)).outcome x = (.ok time, x) := by
  rw [readReal, RawTime.outcome_read, h]

/-- The step on the store is to store the event there. -/
lemma outcome_onStore (x : Intake) (e : Event) (known : Option Int) :
    (onStore (Store.enroll e known)).outcome x =
      ((x.store.upsert e known).1, { x with store := (x.store.upsert e known).2 }) := rfl

/-- An event is refused by the store before anything is written, and once the store has it, nothing
is left that could go wrong: its frame and its time were read there. -/
lemma outcome_accept {k : CorrelationKey} (hkey : e.key = some k) :
    (accept e k (x.knownCall e)).outcome x =
      match (x.store.upsert e (x.knownCall e)).1 with
      | .error refusal => (.error refusal, x)
      | .ok call => (.ok .accepted, x.admittedAs e call) := by
  unfold accept
  rw [Attempt.outcome_bind, outcome_onStore]
  cases hanswer : (x.store.upsert e (x.knownCall e)).1 with
  | error refusal =>
    dsimp only
    rw [Store.upsert_refused hanswer]
  | ok call =>
    obtain ⟨frame, raw, time, hframe, htime, hdouble⟩ := Store.exists_of_upsert_eq_ok hanswer
    have hnumber : e.frameNumber = frame := by rw [Event.frameNumber, hframe]; rfl
    have hseconds : e.seconds = time := by
      rw [Event.seconds, htime, Option.bind_some, hdouble]
      rfl
    simp only [Attempt.outcome_bind, Attempt.outcome_modify, Attempt.outcome_pure, hframe, htime,
      outcome_readWhole, outcome_readReal hdouble]
    cases hknown : x.knownCall e <;>
      simp only [admittedAs, taken, Entry.keyEntry, Entry.seenPacket, Entry.sequenceEvent,
        Event.callKey_eq hkey, hknown, hnumber, hseconds, onTap, appended] <;> rfl

/-- Everything that can become of an event. -/
inductive Fate (x : Intake) (e : Event) : Prop
  | detached (hatt : x.tap.attached = false) (hpacket : x.packet e = (.detached, x))
  | keyless (hatt : x.tap.attached = true) (hkey : e.key = none)
      (hpacket : x.packet e = (.malformed .noKey, x.countMalformed))
  | duplicate (hatt : x.tap.attached = true) (hkey : e.key.isSome = true) (frame : Int)
      (hframe : e.frame = some frame)
      (hseen : x.tap.hasSeen e.callKey.1 e.callKey.2 frame = true)
      (hpacket : x.packet e = (.duplicate, x))
  | ignored (hatt : x.tap.attached = true) (hkey : e.key.isSome = true)
      (hknown : x.knownCall e = none) (hopens : x.tap.opensCall e = false)
      (hpacket : x.packet e = (.ignored, x.countIgnored))
  | passed (hpass : x.Passes e)
      (hpacket : x.packet e = x.answered e (x.store.upsert e (x.knownCall e)).1)

/-- A detached tap takes no event. -/
lemma packet_of_detached (hatt : x.tap.attached = false) : x.packet e = (.detached, x) := by
  unfold packet
  rw [hatt]
  rfl

/-- An event without a key is malformed to an attached tap. -/
lemma packet_of_keyless (hatt : x.tap.attached = true) (hkey : e.key = none) :
    x.packet e = (.malformed .noKey, x.countMalformed) := by
  unfold packet ingest
  rw [hatt, hkey]
  rfl

/-- What is asked of an event with a key, one after the other. -/
lemma outcome_ingest {k : CorrelationKey} (hkey : e.key = some k) :
    (ingest e).outcome x =
      if (e.frame.map (x.tap.hasSeen e.protocol k)).getD false then (.ok .duplicate, x)
      else if (x.knownCall e).isNone && !x.tap.opensCall e then (.ok .ignored, x.countIgnored)
      else
        match (x.store.upsert e (x.knownCall e)).1 with
        | .error refusal => (.error refusal, x)
        | .ok call => (.ok .accepted, x.admittedAs e call) := by
  rw [← outcome_accept hkey, knownCall_eq hkey]
  unfold ingest
  rw [hkey]
  simp only [Attempt.outcome_bind, Attempt.outcome_get]
  split
  · rfl
  · split <;> rfl

/-- An attached tap answers an event with a key accordingly. -/
lemma packet_of_key (hatt : x.tap.attached = true) {k : CorrelationKey} (hkey : e.key = some k) :
    x.packet e =
      if (e.frame.map (x.tap.hasSeen e.protocol k)).getD false then (.duplicate, x)
      else if (x.knownCall e).isNone && !x.tap.opensCall e then (.ignored, x.countIgnored)
      else x.answered e (x.store.upsert e (x.knownCall e)).1 := by
  unfold packet
  rw [hatt, outcome_ingest hkey, if_neg (by simp)]
  split_ifs
  · rfl
  · rfl
  · rcases (x.store.upsert e (x.knownCall e)).1 with (cause | _ | kind) | call <;> rfl

/-- There is nothing else that becomes of an event. -/
theorem fate (x : Intake) (e : Event) : x.Fate e := by
  by_cases hatt : x.tap.attached = true
  case neg =>
    have hdetached : x.tap.attached = false := by simpa using hatt
    exact .detached hdetached (packet_of_detached hdetached)
  cases hkey : e.key with
  | none => exact .keyless hatt hkey (packet_of_keyless hatt hkey)
  | some k =>
    have hsome : e.key.isSome = true := by rw [hkey]; rfl
    have hcallKey := Event.callKey_eq hkey
    have hpacket := packet_of_key hatt hkey
    split_ifs at hpacket with hseen hforeign
    · cases hframe : e.frame with
      | none => rw [hframe] at hseen; cases hseen
      | some frame =>
        rw [hframe] at hseen
        exact .duplicate hatt hsome frame hframe (by rw [hcallKey]; exact hseen) hpacket
    · rw [Bool.and_eq_true, Option.isNone_iff_eq_none, Bool.not_eq_true'] at hforeign
      exact .ignored hatt hsome hforeign.1 hforeign.2 hpacket
    · refine .passed ⟨hatt, hsome, fun frame hframe => ?_, ?_⟩ hpacket
      · rw [hframe] at hseen
        rw [hcallKey]
        exact Bool.eq_false_iff.mpr hseen
      · cases hcall : x.knownCall e with
        | some call => exact Or.inl rfl
        | none =>
          rw [hcall] at hforeign
          exact Or.inr (by simpa using hforeign)

/-- An event that gets as far as the store meets its answer. -/
lemma Passes.packet_eq (h : x.Passes e) :
    x.packet e = x.answered e (x.store.upsert e (x.knownCall e)).1 := by
  cases x.fate e with
  | detached hatt =>
    rw [h.attached] at hatt
    cases hatt
  | keyless _ hkey =>
    have hkeyed := h.keyed
    rw [hkey] at hkeyed
    cases hkeyed
  | duplicate _ _ frame hframe hseen =>
    rw [h.fresh frame hframe] at hseen
    cases hseen
  | ignored _ _ hknown hopens =>
    have hwelcome := h.welcome
    rw [hknown, hopens] at hwelcome
    rcases hwelcome with hwelcome | hwelcome <;> cases hwelcome
  | passed _ hpacket => exact hpacket

/-! ## The answer of the store is known beforehand -/

/-- The store takes a storable event for the call of its key. -/
lemma Follows.takes (h : x.Follows log) (he : e.isStorable = true) :
    x.store.Takes e (x.knownCall e) := by
  refine ⟨he, fun call hcall => ?_⟩
  obtain ⟨i, r, hi, hr, hp⟩ := h.exists_record (Tap.mem_of_callFor hcall)
  obtain rfl : call = i := hi
  exact ⟨r, by rw [h.sound.find?_natCast, hr], hp⟩

/-- The store answers a storable event with the number of its entry. -/
lemma Follows.upsert_fst (h : x.Follows log) (he : e.isStorable = true) :
    (x.store.upsert e (x.knownCall e)).1 = .ok (x.entry e).call := by
  have hanswer : ∃ call, (x.store.upsert e (x.knownCall e)).1 = .ok call := by
    rcases h.sound.upsert_cases e (x.knownCall e) with
      ⟨hno, -⟩ | ⟨-, -, hu⟩ | ⟨-, i, r, -, -, -, hu⟩
    · exact absurd (h.takes he) hno
    · exact ⟨_, congrArg Prod.fst hu⟩
    · exact ⟨_, congrArg Prod.fst hu⟩
  obtain ⟨call, hcall⟩ := hanswer
  rw [hcall, h.sound.eq_of_upsert hcall]
  rfl

/-- What an event that is accepted fulfils. -/
lemma admits_iff : x.admits e = true ↔ x.tap.attached = true ∧ e.key.isSome = true ∧
    e.isStorable = true ∧ x.tap.hasSeen e.callKey.1 e.callKey.2 e.frameNumber = false ∧
    ((x.knownCall e).isSome = true ∨ x.tap.opensCall e = true) := by
  simp [admits, and_assoc]

/-- An event that gets as far as the store is accepted if it is storable. -/
lemma Passes.admits_eq (h : x.Passes e) : x.admits e = e.isStorable := by
  cases he : e.isStorable with
  | false => simp [admits, he]
  | true =>
    obtain ⟨⟨frame, hframe⟩, -⟩ := Event.isStorable_iff.mp he
    have hfresh := h.fresh frame hframe
    have hnumber : e.frameNumber = frame := by rw [Event.frameNumber, hframe]; rfl
    exact admits_iff.mpr ⟨h.attached, h.keyed, he, by rw [hnumber]; exact hfresh, h.welcome⟩

/-- Every event is accepted or changes nothing but the counters. -/
theorem Follows.packet_cases (h : x.Follows log) (e : Event) :
    (x.admits e = true ∧ x.packet e = (.accepted, x.admitted e)) ∨
    (x.admits e = false ∧ (x.packet e).1 ≠ .accepted ∧
      ∃ malformed ignored, (x.packet e).2 = x.counting malformed ignored) := by
  cases x.fate e with
  | detached hatt hpacket =>
    rw [hpacket]
    exact Or.inr ⟨by simp [admits, hatt], by simp, _, _, rfl⟩
  | keyless hatt hkey hpacket =>
    rw [hpacket]
    exact Or.inr ⟨by simp [admits, hkey], by simp, _, _, rfl⟩
  | duplicate hatt hkey frame hframe hseen hpacket =>
    have hnumber : e.frameNumber = frame := by rw [Event.frameNumber, hframe]; rfl
    rw [hpacket]
    exact Or.inr ⟨by simp [admits, hnumber, hseen], by simp, _, _, rfl⟩
  | ignored hatt hkey hknown hopens hpacket =>
    rw [hpacket]
    exact Or.inr ⟨by simp [admits, hknown, hopens], by simp, _, _, rfl⟩
  | passed hpass hpacket =>
    rw [hpass.admits_eq, hpacket]
    cases he : e.isStorable with
    | true =>
      rw [h.upsert_fst he]
      exact Or.inl ⟨rfl, rfl⟩
    | false =>
      refine Or.inr ⟨rfl, ?_⟩
      cases hanswer : (x.store.upsert e (x.knownCall e)).1 with
      | ok call =>
        rw [h.sound.isStorable_of_upsert hanswer] at he
        cases he
      | error refusal => cases refusal <;> exact ⟨by simp [answered], _, _, rfl⟩

/-- An event that has a key and can be stored is never malformed. -/
lemma Follows.packet_ne_malformed (h : x.Follows log) (hkey : e.key.isSome = true)
    (he : e.isStorable = true) (cause : Malformed) : (x.packet e).1 ≠ .malformed cause := by
  cases x.fate e with
  | detached _ hpacket => simp [hpacket]
  | keyless _ hnone _ =>
    rw [hnone] at hkey
    cases hkey
  | duplicate _ _ _ _ _ hpacket => simp [hpacket]
  | ignored _ _ _ _ hpacket => simp [hpacket]
  | passed _ hpacket =>
    rw [hpacket, h.upsert_fst he]
    simp [answered]

/-! ## The log grows by one entry for each accepted event -/

/-- The entry of an event of a known call carries its number, and of any other event the next. -/
lemma call_entry_of_known {call : Int} (hc : x.knownCall e = some call) :
    (x.entry e).call = call := by
  unfold entry
  rw [hc]
  rfl

lemma call_entry_of_new (hc : x.knownCall e = none) : (x.entry e).call = x.store.nextId := by
  unfold entry
  rw [hc]
  rfl

/-- Each record still amounts to the events of its call. -/
lemma Follows.records_admitted (h : x.Follows log) (he : e.isStorable = true) (i : ℕ) :
    (x.admitted e).store.working[i]? =
      CallRecord.ofEvents i (eventsOf i (log ++ [x.entry e])) := by
  have hplace := h.sound.getElem?_upsert e (x.knownCall e) i
  simp only [h.upsert_fst he, Except.ok.injEq] at hplace
  refine hplace.trans ?_
  rw [eventsOf_concat, h.records]
  split
  · exact (CallRecord.ofEvents_concat _ _ _).symm
  · rfl

/-- The keys stay the same if the event belongs to a call. -/
lemma keys_of_known {call : Int} (hc : x.knownCall e = some call) :
    (x.admitted e).tap.keys = x.tap.keys := by
  rw [admitted, admittedAs, hc]
  rfl

/-- Else the key of the event is a new one. -/
lemma keys_of_new (hc : x.knownCall e = none) :
    (x.admitted e).tap.keys = x.tap.keys ++ [(x.entry e).keyEntry] := by
  rw [admitted, admittedAs, hc]
  rfl

/-- The keys after an accepted event: those from before, if the event belongs to a call, and else
the key of the event as well. -/
lemma Follows.keys_cases (h : x.Follows log) (he : e.isStorable = true) :
    ((x.entry e).keyEntry ∈ x.tap.keys ∧ (x.admitted e).tap.keys = x.tap.keys ∧
      (x.admitted e).store.working.length = x.store.working.length) ∨
    ((∀ entry ∈ x.tap.keys, entry.protocol = e.callKey.1 → entry.key ≠ e.callKey.2) ∧
      (x.entry e).call = x.tap.keys.length ∧
      (x.admitted e).tap.keys = x.tap.keys ++ [(x.entry e).keyEntry] ∧
      (x.admitted e).store.working.length = x.store.working.length + 1) := by
  cases hc : x.knownCall e with
  | some call =>
    have hin := Tap.mem_of_callFor hc
    obtain ⟨j, r, hj, hr, hp⟩ := h.exists_record hin
    obtain rfl : call = j := hj
    refine Or.inl ⟨?_, keys_of_known hc, ?_⟩
    · rw [← call_entry_of_known hc] at hin
      exact hin
    · rw [admitted, admittedAs, hc, h.sound.upsert_known hr hp he]
      simp
  | none =>
    refine Or.inr ⟨fun entry hentry hprot hkey => ?_, ?_, keys_of_new hc, ?_⟩
    · obtain ⟨call', hcall'⟩ := Tap.exists_callFor_of_mem (t := x.tap) hentry
      rw [hprot, hkey] at hcall'
      rw [knownCall, hcall'] at hc
      cases hc
    · rw [call_entry_of_new hc, h.length_keys, h.indexed.nextId_eq]
    · rw [admitted, admittedAs, hc, Store.upsert_new he]
      simp

/-- The keys are still those of the entries, in the order of their first acceptance. -/
lemma Follows.keys_admitted (h : x.Follows log) (he : e.isStorable = true) :
    (x.admitted e).tap.keys = ((log ++ [x.entry e]).map Entry.keyEntry).eraseDups := by
  have hmem : (x.entry e).keyEntry ∈ log.map Entry.keyEntry ↔
      (x.entry e).keyEntry ∈ x.tap.keys := by
    rw [h.keys, List.mem_eraseDups]
  rw [List.map_append, List.map_singleton, eraseDups_concat, ← h.keys]
  rcases h.keys_cases he with ⟨hin, hsame, -⟩ | ⟨-, hcall, hgrown, -⟩
  · rw [if_pos (hmem.mpr hin), hsame]
  · have hout : (x.entry e).keyEntry ∉ x.tap.keys := by
      -- the numbers of the calls that are registered are smaller
      intro hin
      obtain ⟨i, hi, hlt⟩ := h.exists_place hin
      have hlen := h.length_keys
      change (x.entry e).call = _ at hi
      omega
    rw [if_neg (fun hin => hout (hmem.mp hin)), hgrown]

/-- The calls of the keys are still numbered in that order. -/
lemma Follows.numbered_admitted (h : x.Follows log) (he : e.isStorable = true) {i : ℕ}
    {entry : KeyEntry} (hentry : (x.admitted e).tap.keys[i]? = some entry) : entry.call = i := by
  rcases h.keys_cases he with ⟨-, hsame, -⟩ | ⟨-, hcall, hgrown, -⟩
  · rw [hsame] at hentry
    exact h.numbered i entry hentry
  · rw [hgrown, List.getElem?_append] at hentry
    split at hentry
    · exact h.numbered i entry hentry
    · obtain ⟨hi, rfl⟩ := List.getElem?_eq_some_iff.mp hentry
      have hzero : i - x.tap.keys.length = 0 := by simpa using hi
      simp only [hzero, List.getElem_cons_zero]
      change (x.entry e).call = _
      omega

/-- A key still has one call. -/
lemma Follows.one_call_admitted (h : x.Follows log) (he : e.isStorable = true) :
    ∀ entry ∈ (x.admitted e).tap.keys, ∀ entry' ∈ (x.admitted e).tap.keys,
      entry.protocol = entry'.protocol → entry.key = entry'.key → entry = entry' := by
  rcases h.keys_cases he with ⟨-, hsame, -⟩ | ⟨hother, -, hgrown, -⟩
  · rw [hsame]
    exact h.one_call
  · rw [hgrown]
    intro entry hentry entry' hentry' hprot hkey
    rcases List.mem_append.mp hentry with hentry | hentry <;>
      rcases List.mem_append.mp hentry' with hentry' | hentry'
    · exact h.one_call entry hentry entry' hentry' hprot hkey
    · obtain rfl := List.mem_singleton.mp hentry'
      exact absurd hkey (hother entry hentry hprot)
    · obtain rfl := List.mem_singleton.mp hentry
      exact absurd hkey.symm (hother entry' hentry' hprot.symm)
    · rw [List.mem_singleton.mp hentry, List.mem_singleton.mp hentry']

/-- A packet that was not seen is unlike those of all entries. -/
lemma Follows.fresh_admitted (h : x.Follows log)
    (hunseen : x.tap.hasSeen e.callKey.1 e.callKey.2 e.frameNumber = false) :
    (log ++ [x.entry e]).Pairwise fun a b => a.seenPacket ≠ b.seenPacket := by
  rw [List.pairwise_append]
  refine ⟨h.fresh, List.pairwise_singleton _ _, fun a hin b hb hsame => ?_⟩
  obtain rfl := List.mem_singleton.mp hb
  have hmem : (x.entry e).seenPacket ∈ x.tap.seen := by
    rw [h.seen, ← hsame]
    exact List.mem_map_of_mem hin
  have hseen : x.tap.hasSeen e.callKey.1 e.callKey.2 e.frameNumber = true :=
    Tap.hasSeen_iff.mpr hmem
  rw [hunseen] at hseen
  cases hseen

/-- An event that opens or goes on a call keeps the counter and the index of the store in step. -/
lemma Follows.indexed_admitted (h : x.Follows log) (he : e.isStorable = true) :
    (x.admitted e).store.Indexed := by
  change (x.store.upsert e (x.knownCall e)).2.Indexed
  rcases h.sound.upsert_cases e (x.knownCall e) with
    ⟨hno, -⟩ | ⟨-, -, hu⟩ | ⟨-, i, r, -, -, -, hu⟩
  · exact absurd (h.takes he) hno
  · rw [hu]
    exact (h.indexed.added rfl).congr
      ((Store.sameCalls_settle _).trans (Store.sameCalls_marked _ _))
  · rw [hu]
    exact (h.indexed.setAt i _).congr
      ((Store.sameCalls_settle _).trans (Store.sameCalls_marked _ _))

/-- An accepted event adds its entry to the log. -/
theorem Follows.admitted (h : x.Follows log) (ha : x.admits e = true) :
    (x.admitted e).Follows (log ++ [x.entry e]) := by
  obtain ⟨-, hkey, he, hunseen, -⟩ := admits_iff.mp ha
  refine
    { indexed := h.indexed_admitted he
      records := h.records_admitted he
      complete := ?_
      keys := h.keys_admitted he
      numbered := fun i entry => h.numbered_admitted he
      length_keys := ?_
      one_call := h.one_call_admitted he
      seen := ?_
      fresh := h.fresh_admitted hunseen
      events := ?_ }
  · intro a hin
    rcases List.mem_append.mp hin with hin | hin
    · exact h.complete a hin
    · obtain rfl := List.mem_singleton.mp hin
      exact ⟨he, hkey⟩
  · have hlen := h.length_keys
    rcases h.keys_cases he with ⟨-, hsame, hworking⟩ | ⟨-, -, hgrown, hworking⟩
    · rw [hsame, hworking, hlen]
    · rw [hgrown, hworking, List.length_append, hlen]
      rfl
  · have hgrown : (x.admitted e).tap.seen = x.tap.seen ++ [(x.entry e).seenPacket] := by
      change (if x.tap.hasSeen _ _ _ = true then _ else _) = _
      rw [hunseen]
      rfl
    rw [hgrown, h.seen, List.map_append]
    rfl
  · change ((x.sequence.items ++ [(x.entry e).sequenceEvent]).map shown).Perm _
    rw [List.map_append, List.map_append]
    exact h.events.append_right _

/-- The counters have no part in what follows from the log. -/
lemma Follows.counting (h : x.Follows log) (malformed ignored : ℕ) :
    (x.counting malformed ignored).Follows log :=
  h.congr (.refl _) rfl rfl (.refl _)

/-- The log after an event. -/
def logAfter (x : Intake) (log : List Entry) (e : Event) : List Entry :=
  if x.admits e then log ++ [x.entry e] else log

/-- Every event keeps the invariant. -/
theorem Follows.packet (h : x.Follows log) (e : Event) :
    (x.packet e).2.Follows (x.logAfter log e) := by
  unfold logAfter
  rcases h.packet_cases e with ⟨ha, hx⟩ | ⟨ha, -, malformed, ignored, hx⟩
  · rw [hx, if_pos ha]
    exact h.admitted ha
  · rw [hx, ha, if_neg Bool.false_ne_true]
    exact h.counting malformed ignored

/-- An event neither attaches nor detaches the tap, nor changes the choice of flows. -/
lemma Follows.tap_packet (h : x.Follows log) (e : Event) :
    (x.packet e).2.tap.attached = x.tap.attached ∧
      (x.packet e).2.tap.flowShow = x.tap.flowShow := by
  rcases h.packet_cases e with ⟨-, hx⟩ | ⟨-, -, malformed, ignored, hx⟩ <;>
    rw [hx] <;> exact ⟨rfl, rfl⟩

/-- An event is stored, or the store is left alone. -/
lemma Follows.store_packet (h : x.Follows log) (e : Event) :
    (x.packet e).2.store = x.store ∨
      (x.packet e).2.store = (x.store.upsert e (x.knownCall e)).2 := by
  rcases h.packet_cases e with ⟨-, hx⟩ | ⟨-, -, malformed, ignored, hx⟩
  · exact Or.inr (by rw [hx]; rfl)
  · exact Or.inl (by rw [hx]; rfl)

/-- The event of an entry that is added is the last one of the sequence index. -/
lemma Follows.items_packet (h : x.Follows log) (e : Event) :
    (x.packet e).2.sequence.items =
      if x.admits e then x.sequence.items ++ [(x.entry e).sequenceEvent]
      else x.sequence.items := by
  rcases h.packet_cases e with ⟨ha, hx⟩ | ⟨ha, -, malformed, ignored, hx⟩
  · rw [hx, if_pos ha]
    rfl
  · rw [hx, ha, if_neg Bool.false_ne_true]
    rfl

end Intake

end VoipCalls
