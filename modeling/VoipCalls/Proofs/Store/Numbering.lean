import VoipCalls.Proofs.Store.Deciding

/-!
# The numbers of the calls

A store never moves or drops a record, so that the number of a call is its place in the store.
`Store.Sound` says so, and that each record's payload is of the kind of its protocol.  It also
couples the three places in which a store keeps account of its calls: the counter stands at the
number of records, and the index leads from every number below it to the place of that number
(`Store.Indexed`).

Under this condition everything that storing an event can do is said once, in `Sound.upsert_cases`:
the event is refused and the store is left alone, or a record is appended, or the record at the
place of the call is revised.  Which of the three happens is decided by `Store.Takes`.  What becomes
of the record at one place is read off it in `Sound.getElem?_upsert`.
-/

namespace VoipCalls

namespace Store

/-- An index from the numbers below a bound to themselves, the last number first. -/
def placesBelow : ℕ → List (Int × ℕ)
  | 0 => []
  | n + 1 => ((n : Int), n) :: placesBelow n

/-- The counter and the index are in step with the records. -/
structure Indexed (s : Store) : Prop where
  /-- The number of the next call is the number of records. -/
  nextId_eq : s.nextId = s.working.length
  /-- The index leads from the numbers of the records to their places. -/
  places_eq : s.places = placesBelow s.working.length

/-- The numbers of the calls are their places, and the payloads fit the protocols. -/
structure Sound (s : Store) : Prop extends Indexed s where
  /-- The record at a place has the number of the place. -/
  numbered : ∀ (i : ℕ) (r : CallRecord), s.working[i]? = some r → r.callId = i
  /-- The payload of a record is of the kind of its protocol. -/
  kinded : ∀ r ∈ s.working, r.payload.kind = r.protocol.payloadKind

/-- Two stores have the same calls: the records, the counter and the index are the same.  They may
differ in what is published. -/
structure SameCalls (s t : Store) : Prop where
  /-- The records are the same. -/
  working : s.working = t.working
  /-- The index is the same. -/
  places : s.places = t.places
  /-- The next call has the same number. -/
  nextId : s.nextId = t.nextId

variable {s t u : Store} {e : Event}

@[refl] lemma SameCalls.refl (s : Store) : s.SameCalls s :=
  ⟨rfl, rfl, rfl⟩

lemma SameCalls.symm (h : s.SameCalls t) : t.SameCalls s :=
  ⟨h.working.symm, h.places.symm, h.nextId.symm⟩

lemma SameCalls.trans (h : s.SameCalls t) (h' : t.SameCalls u) : s.SameCalls u :=
  ⟨h.working.trans h'.working, h.places.trans h'.places, h.nextId.trans h'.nextId⟩

/-- Where the counters and the indices are in step, only the records have to be compared. -/
lemma Indexed.sameCalls (hs : s.Indexed) (ht : t.Indexed) (h : s.working = t.working) :
    s.SameCalls t where
  working := h
  places := by rw [hs.places_eq, ht.places_eq, h]
  nextId := by rw [hs.nextId_eq, ht.nextId_eq, h]

lemma Indexed.congr (h : s.Indexed) (hsame : t.SameCalls s) : t.Indexed where
  nextId_eq := by rw [hsame.nextId, hsame.working, h.nextId_eq]
  places_eq := by rw [hsame.places, hsame.working, h.places_eq]

/-- Only the calls matter for soundness. -/
lemma Sound.congr (h : s.Sound) (hsame : t.SameCalls s) : t.Sound where
  toIndexed := h.toIndexed.congr hsame
  numbered := by rw [hsame.working]; exact h.numbered
  kinded := by rw [hsame.working]; exact h.kinded

/-! ## Looking up a call -/

/-- The index below a bound leads from the numbers below it to themselves. -/
lemma lookup_placesBelow (n i : ℕ) :
    (placesBelow n).lookup (i : Int) = if i < n then some i else none := by
  induction n with
  | zero => rfl
  | succ n ih =>
    rw [placesBelow, List.lookup_cons]
    by_cases hi : i = n
    · subst hi
      simp
    · have hne : ((i : Int) == (n : Int)) = false := beq_false_of_ne (Int.natCast_inj.not.mpr hi)
      rw [hne, ih]
      have hlt : i < n ↔ i < n + 1 := by omega
      simp [hlt]

/-- And from no other number anywhere. -/
lemma exists_of_lookup_placesBelow {n place : ℕ} {id : Int}
    (h : (placesBelow n).lookup id = some place) : id = place ∧ place < n := by
  induction n with
  | zero => cases h
  | succ n ih =>
    rw [placesBelow, List.lookup_cons] at h
    by_cases hid : id = n
    · subst hid
      obtain rfl : n = place := by simpa using h
      exact ⟨rfl, Nat.lt_succ_self n⟩
    · have hne : (id == (n : Int)) = false := beq_false_of_ne hid
      rw [hne] at h
      obtain ⟨hplace, hlt⟩ := ih h
      exact ⟨hplace, Nat.lt_succ_of_lt hlt⟩

/-- The index leads from the number of a record to its place. -/
lemma Indexed.lookup_natCast (h : s.Indexed) {i : ℕ} (hi : i < s.working.length) :
    s.places.lookup (i : Int) = some i := by
  rw [h.places_eq, lookup_placesBelow, if_pos hi]

/-- Looking up a number is looking at a place. -/
lemma Indexed.find?_natCast (h : s.Indexed) (i : ℕ) : s.find? i = s.working[i]? := by
  rw [find?, h.places_eq, lookup_placesBelow]
  split
  · rfl
  · rename_i hi
    rw [List.getElem?_eq_none (Nat.not_lt.mp hi)]
    rfl

/-- A record that a number leads to stands at that place. -/
lemma Indexed.exists_of_find? (h : s.Indexed) {id : Int} {r : CallRecord}
    (hr : s.find? id = some r) : ∃ i : ℕ, id = i ∧ s.working[i]? = some r := by
  obtain ⟨place, hplace, hrecord⟩ := Option.bind_eq_some_iff.mp hr
  rw [h.places_eq] at hplace
  exact ⟨place, (exists_of_lookup_placesBelow hplace).1, hrecord⟩

/-- The calls that were created are those numbered from zero up to the number of records. -/
lemma Indexed.knows_iff (h : s.Indexed) {id : Int} :
    s.knows id = true ↔ ∃ i : ℕ, id = i ∧ i < s.working.length := by
  unfold knows
  rw [Option.isSome_iff_exists, h.places_eq]
  constructor
  · rintro ⟨place, hplace⟩
    exact ⟨place, exists_of_lookup_placesBelow hplace⟩
  · rintro ⟨i, rfl, hi⟩
    exact ⟨i, by rw [lookup_placesBelow, if_pos hi]⟩

/-- The calls that were created are those that have a record. -/
lemma Indexed.knows_eq (h : s.Indexed) (id : Int) : s.knows id = (s.find? id).isSome := by
  rw [Bool.eq_iff_iff, h.knows_iff, Option.isSome_iff_exists]
  constructor
  · rintro ⟨i, rfl, hi⟩
    exact ⟨s.working[i], by rw [h.find?_natCast, List.getElem?_eq_getElem hi]⟩
  · rintro ⟨r, hr⟩
    obtain ⟨i, hid, hi⟩ := h.exists_of_find? hr
    exact ⟨i, hid, (List.getElem?_eq_some_iff.mp hi).1⟩

/-- The store with another working record at a place. -/
def setAt (s : Store) (i : ℕ) (r : CallRecord) : Store :=
  { s with working := s.working.set i r }

@[simp] lemma working_setAt (s : Store) (i : ℕ) (r : CallRecord) :
    (s.setAt i r).working = s.working.set i r := rfl

@[simp] lemma working_added (s : Store) (r : CallRecord) :
    (s.added r).working = s.working ++ [r] := rfl

/-- Writing the record of a call anew is replacing the one at its place. -/
lemma Indexed.replace_eq (h : s.Indexed) {i : ℕ} (hi : i < s.working.length) (r : CallRecord) :
    s.replace i r = s.setAt i r := by
  rw [replace, h.lookup_natCast hi]
  rfl

/-! ## Storing an event -/

/-- Whether the store takes an event for the call that is named, or for a new one if none is. -/
def Takes (s : Store) (e : Event) (id? : Option Int) : Prop :=
  e.isStorable = true ∧ ∀ id, id? = some id → ∃ r, s.find? id = some r ∧ r.protocol = e.protocol

/-- A storable event opens a call. -/
lemma decision_new (he : e.isStorable = true) :
    s.decision e none = .ok (.openedBy s.nextId e) := by
  obtain ⟨⟨frame, hf⟩, ⟨raw, time, ht, hd⟩, hk⟩ := Event.isStorable_iff.mp he
  simp [decision, opening, hf, ht, hd, hk, CallRecord.openedBy, Event.frameNumber, Event.seconds]

/-- The payload of a storable event fits the record of a call of its protocol. -/
lemma Sound.payloadClashes_eq_false (h : s.Sound) {r : CallRecord} (hr : r ∈ s.working)
    (hp : r.protocol = e.protocol) (he : e.isStorable = true) : payloadClashes r e = false := by
  have hk := (Event.isStorable_iff.mp he).2.2
  unfold payloadClashes
  cases hpay : e.payload with
  | none => rfl
  | some p =>
    rw [hpay, Option.getD_some] at hk
    simp [h.kinded r hr, hp, hk]

/-- A storable event revises a call of its protocol. -/
lemma Sound.decision_known (h : s.Sound) {i : ℕ} {r : CallRecord} (hi : s.working[i]? = some r)
    (hp : r.protocol = e.protocol) (he : e.isStorable = true) :
    s.decision e (some i) = .ok (r.revisedBy e) := by
  have hc := h.payloadClashes_eq_false (List.mem_of_getElem? hi) hp he
  obtain ⟨⟨frame, hf⟩, ⟨raw, time, ht, hd⟩, -⟩ := Event.isStorable_iff.mp he
  simp [decision, revision, h.find?_natCast, hi, hp, hc, hf, ht, hd, CallRecord.revisedBy,
    Event.frameNumber, Event.seconds]

/-- A storable event that names no call opens the next one. -/
lemma upsert_new (he : e.isStorable = true) :
    s.upsert e none =
      (.ok s.nextId, ((s.added (.openedBy s.nextId e)).marked s.nextId).settle) := by
  rw [upsert_eq, decision_new he]
  rfl

/-- A storable event that names a call of its protocol revises it. -/
lemma Sound.upsert_known (h : s.Sound) {i : ℕ} {r : CallRecord} (hi : s.working[i]? = some r)
    (hp : r.protocol = e.protocol) (he : e.isStorable = true) :
    s.upsert e (some i) = (.ok i, ((s.setAt i (r.revisedBy e)).marked i).settle) := by
  have hlt : i < s.working.length := (List.getElem?_eq_some_iff.mp hi).1
  have hid : (r.revisedBy e).callId = i := h.numbered i r hi
  rw [upsert_eq, h.decision_known hi hp he]
  dsimp only [written]
  rw [h.replace_eq hlt, hid]

/-- A record that is decided on has the number of the call that the event names, and else the next
number. -/
lemma Sound.callId_of_decision (h : s.Sound) {id? : Option Int} {r' : CallRecord}
    (hd : s.decision e id? = .ok r') : r'.callId = id?.getD s.nextId := by
  obtain ⟨frame, raw, time, -, -, -, hcase⟩ := of_decision_eq_ok hd
  rcases hcase with ⟨rfl, -, rfl⟩ | ⟨id, r, rfl, hr, -, -, rfl⟩
  · rfl
  · obtain ⟨i, rfl, hi⟩ := h.exists_of_find? hr
    exact h.numbered i r hi

/-- An event is stored for the call that it names, and else for the next one. -/
lemma Sound.eq_of_upsert (h : s.Sound) {id? : Option Int} {call : Int}
    (hu : (s.upsert e id?).1 = .ok call) : call = id?.getD s.nextId := by
  rw [upsert_fst] at hu
  cases hd : s.decision e id? with
  | error refusal => rw [hd] at hu; cases hu
  | ok r =>
    rw [hd] at hu
    cases hu
    exact h.callId_of_decision hd

/-- The payload of an event that does not clash with a record of its protocol is of the right
kind. -/
lemma Sound.kind_of_not_clashes (h : s.Sound) {r : CallRecord} (hr : r ∈ s.working)
    (hp : r.protocol = e.protocol) (hc : payloadClashes r e = false) :
    (e.payload.getD e.protocol.emptyPayload).kind = e.protocol.payloadKind := by
  unfold payloadClashes at hc
  cases hpay : e.payload with
  | none => exact Payload.kind_empty _
  | some p =>
    have hkind : p.kind = r.payload.kind := by simpa [hpay] using hc
    rw [Option.getD_some, hkind, h.kinded r hr, hp]

/-- An event that is decided on was one to take. -/
lemma Sound.takes_of_decision (h : s.Sound) {id? : Option Int} {r' : CallRecord}
    (hd : s.decision e id? = .ok r') : s.Takes e id? := by
  obtain ⟨frame, raw, time, hf, ht, htime, hcase⟩ := of_decision_eq_ok hd
  rcases hcase with ⟨rfl, hkind, -⟩ | ⟨id, r, rfl, hr, hprot, hclash, -⟩
  · exact ⟨Event.isStorable_iff.mpr ⟨⟨frame, hf⟩, ⟨raw, time, ht, htime⟩, hkind⟩, by simp⟩
  · obtain ⟨i, rfl, hi⟩ := h.exists_of_find? hr
    have hkind := h.kind_of_not_clashes (List.mem_of_getElem? hi) hprot hclash
    refine ⟨Event.isStorable_iff.mpr ⟨⟨frame, hf⟩, ⟨raw, time, ht, htime⟩, hkind⟩, ?_⟩
    rintro _ ⟨⟩
    exact ⟨r, hr, hprot⟩

/-- Everything that storing an event can do: it is refused and leaves the store alone, it opens the
next call, or it revises the record at the place of its call. -/
theorem Sound.upsert_cases (h : s.Sound) (e : Event) (id? : Option Int) :
    (¬ s.Takes e id? ∧ ∃ refusal, s.upsert e id? = (.error refusal, s)) ∨
    (s.Takes e id? ∧ id? = none ∧
      s.upsert e id? =
        (.ok s.nextId, ((s.added (.openedBy s.nextId e)).marked s.nextId).settle)) ∨
    (s.Takes e id? ∧ ∃ (i : ℕ) (r : CallRecord),
      id? = some (i : Int) ∧ s.working[i]? = some r ∧ r.protocol = e.protocol ∧
      s.upsert e id? = (.ok i, ((s.setAt i (r.revisedBy e)).marked i).settle)) := by
  by_cases htake : s.Takes e id?
  · refine Or.inr ?_
    have ⟨he, hid⟩ := htake
    cases id? with
    | none => exact Or.inl ⟨htake, rfl, upsert_new he⟩
    | some id =>
      obtain ⟨r, hr, hp⟩ := hid id rfl
      obtain ⟨i, rfl, hi⟩ := h.exists_of_find? hr
      exact Or.inr ⟨htake, i, r, rfl, hi, hp, h.upsert_known hi hp he⟩
  · refine Or.inl ⟨htake, ?_⟩
    cases hd : s.decision e id? with
    | ok r => exact absurd (h.takes_of_decision hd) htake
    | error refusal => exact ⟨refusal, by rw [upsert_eq, hd]⟩

/-! ## The record that an event is added to -/

/-- Publishing, noting and leaving a batch change no call. -/
lemma sameCalls_publish (s : Store) : s.publish.SameCalls s := by
  unfold publish
  split
  · exact .refl s
  · exact ⟨rfl, rfl, rfl⟩

lemma sameCalls_settle (s : Store) : s.settle.SameCalls s := by
  unfold settle
  split
  · exact .refl s
  · exact sameCalls_publish s

lemma sameCalls_marked (s : Store) (id : Int) : (s.marked id).SameCalls s :=
  ⟨rfl, rfl, rfl⟩

lemma sameCalls_leave (s : Store) : s.leave.SameCalls s :=
  (sameCalls_settle _).trans ⟨rfl, rfl, rfl⟩

lemma sameCalls_enter (s : Store) : s.enter.SameCalls s :=
  ⟨rfl, rfl, rfl⟩

@[simp] lemma working_settle (s : Store) : s.settle.working = s.working :=
  (sameCalls_settle s).working

@[simp] lemma working_marked (s : Store) (id : Int) : (s.marked id).working = s.working := rfl

@[simp] lemma working_leave (s : Store) : s.leave.working = s.working :=
  (sameCalls_leave s).working

/-- Storing an event adds it to the record of the call that is answered, and to no other. -/
theorem Sound.getElem?_upsert (h : s.Sound) (e : Event) (id? : Option Int) (i : ℕ) :
    (s.upsert e id?).2.working[i]? =
      if (s.upsert e id?).1 = .ok (i : Int) then
        some ((s.working[i]?.map fun r => r.revisedBy e).getD (.openedBy i e))
      else s.working[i]? := by
  have hanswer : ∀ j : ℕ, ((.ok (j : Int) : Except Refusal Int) = .ok (i : Int)) ↔ j = i := by
    intro j
    rw [Except.ok.injEq]
    omega
  rcases h.upsert_cases e id? with
    ⟨-, refusal, hu⟩ | ⟨-, -, hu⟩ | ⟨-, j, r, -, hj, -, hu⟩ <;> rw [hu]
  · simp
  · have hnext : s.nextId = s.working.length := h.nextId_eq
    simp only [working_settle, working_marked, working_added, hanswer]
    split
    · rename_i hi
      subst hi
      rw [hnext, List.getElem?_concat_length, List.getElem?_eq_none (Nat.le_refl _)]
      rfl
    · -- the new record stands behind the others
      rename_i hi
      rw [List.getElem?_append]
      split
      · rfl
      · rw [List.getElem?_eq_none (by simp; omega), List.getElem?_eq_none (by omega)]
  · have hlt : j < s.working.length := (List.getElem?_eq_some_iff.mp hj).1
    simp only [working_settle, working_marked, working_setAt, hanswer]
    split
    · rename_i hi
      subst hi
      rw [List.getElem?_set_self hlt, hj]
      rfl
    · rename_i hi
      rw [List.getElem?_set_ne hi]

/-- Only a storable event is stored. -/
lemma Sound.isStorable_of_upsert (h : s.Sound) {id? : Option Int} {call : Int}
    (hu : (s.upsert e id?).1 = .ok call) : e.isStorable = true := by
  rcases h.upsert_cases e id? with ⟨-, refusal, hrefused⟩ | ⟨htake, -⟩ | ⟨htake, -⟩
  · rw [hrefused] at hu
    cases hu
  · exact htake.1
  · exact htake.1

/-! ## Soundness is kept -/

/-- In a new store the counter and the index are in step. -/
lemma Indexed.empty : Indexed {} :=
  ⟨rfl, rfl⟩

/-- A new store is sound. -/
lemma Sound.empty : Sound {} where
  toIndexed := .empty
  numbered i r hr := by cases hr
  kinded r hr := absurd hr List.not_mem_nil

/-- A new record that has the next number keeps the counter and the index in step. -/
lemma Indexed.added (h : s.Indexed) {r : CallRecord} (hr : r.callId = s.nextId) :
    (s.added r).Indexed where
  nextId_eq := by
    rw [working_added, List.length_append, ← h.nextId_eq]
    rfl
  places_eq := by
    have hplace : (s.working ++ [r]).length - 1 = s.working.length := by simp
    have hgrown : (s.working ++ [r]).length = s.working.length + 1 := by simp
    change (r.callId, (s.working ++ [r]).length - 1) :: s.places =
      placesBelow (s.working ++ [r]).length
    rw [hplace, hgrown, placesBelow, hr, h.nextId_eq, h.places_eq]

/-- The record of a storable event keeps a store sound. -/
lemma Sound.added (h : s.Sound) (he : e.isStorable = true) :
    (s.added (.openedBy s.nextId e)).Sound where
  toIndexed := h.toIndexed.added rfl
  numbered i r hr := by
    rw [working_added, List.getElem?_append] at hr
    split at hr
    · exact h.numbered i r hr
    · rename_i hlt
      obtain ⟨hi, rfl⟩ := List.getElem?_eq_some_iff.mp hr
      have hlen : i - s.working.length = 0 := by simpa using hi
      have hnext := h.nextId_eq
      simp only [hlen, List.getElem_cons_zero, CallRecord.callId_openedBy]
      omega
  kinded r hr := by
    rcases List.mem_append.mp hr with hr | hr
    · exact h.kinded r hr
    · obtain rfl := List.mem_singleton.mp hr
      exact (Event.isStorable_iff.mp he).2.2

/-- A revision keeps the counter and the index in step. -/
lemma Indexed.setAt (h : s.Indexed) (i : ℕ) (r : CallRecord) : (s.setAt i r).Indexed where
  nextId_eq := by
    rw [working_setAt, List.length_set]
    exact h.nextId_eq
  places_eq := by
    rw [working_setAt, List.length_set]
    exact h.places_eq

/-- A revision keeps a store sound. -/
lemma Sound.setAt (h : s.Sound) {i : ℕ} {r : CallRecord} (hi : s.working[i]? = some r) (e : Event) :
    (s.setAt i (r.revisedBy e)).Sound where
  toIndexed := h.toIndexed.setAt i _
  numbered j q hq := by
    rw [working_setAt, List.getElem?_set] at hq
    split at hq
    · rename_i hij
      split at hq
      · cases hq
        rw [CallRecord.callId_revisedBy, ← hij]
        exact h.numbered i r hi
      · cases hq
    · exact h.numbered j q hq
  kinded q hq := by
    rcases List.mem_or_eq_of_mem_set hq with hq | rfl
    · exact h.kinded q hq
    · rw [CallRecord.kind_revisedBy, CallRecord.protocol_revisedBy]
      exact h.kinded r (List.mem_of_getElem? hi)

end Store

end VoipCalls
