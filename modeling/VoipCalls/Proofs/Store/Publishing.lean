import VoipCalls.Proofs.Store.Numbering

/-!
# Publishing

Readers see the published records, which catch up with the working ones by copying only what has
changed: the records appended since, and those whose numbers are noted as dirty.

`Store.Noted` says that nothing else can differ, so that the copy is a full one
(`Store.publish_eq`).  `Store.Coherent` adds soundness and that nothing is left to copy while no
batch is open; every operation on a store keeps it.
-/

namespace VoipCalls

namespace Store

/-- Every difference between the published and the working records is noted: a published record
that is not dirty is the working one, and only calls that exist are dirty. -/
structure Noted (s : Store) : Prop where
  /-- Nothing is published that was not created. -/
  length_le : s.published.length ≤ s.working.length
  /-- A published record whose call is not dirty is the working record. -/
  agree : ∀ i : ℕ, i < s.published.length → (i : Int) ∉ s.dirty →
    s.published[i]? = s.working[i]?
  /-- Only calls that were created are dirty. -/
  known : ∀ id ∈ s.dirty, ∃ i : ℕ, id = i ∧ i < s.working.length
  /-- The published record at a place has the number of the place, be it dirty or not. -/
  placed : ∀ (i : ℕ) (r : CallRecord), s.published[i]? = some r → r.callId = i

/-- A sound store whose unpublished changes are all noted, and which has none while no batch is
open. -/
structure Coherent (s : Store) : Prop extends Sound s, Noted s where
  /-- While no batch is open, everything is published. -/
  settled : s.depth = 0 → s.published = s.working ∧ s.dirty = []

variable {s : Store}

/-! ## Publishing is a full copy -/

/-- Copying some working records leaves the number of published ones alone. -/
@[simp] lemma length_foldl_republish (s : Store) (ids : List Int) (published : List CallRecord) :
    (ids.foldl s.republish published).length = published.length := by
  induction ids generalizing published with
  | nil => rfl
  | cons id ids ih =>
    rw [List.foldl_cons, ih]
    unfold republish
    cases s.find? id <;> simp

/-- Copying one working record changes one place. -/
lemma Sound.getElem?_republish (h : s.Sound) {j : ℕ} (hj : j < s.working.length)
    (published : List CallRecord) (i : ℕ) :
    (s.republish published j)[i]? =
      if j = i ∧ i < published.length then s.working[i]? else published[i]? := by
  rw [republish, h.find?_natCast, List.getElem?_eq_getElem hj]
  simp only [Int.toNat_natCast, List.getElem?_set]
  by_cases hij : j = i
  · subst hij
    by_cases hlt : j < published.length
    · simp [hlt, hj]
    · simp [hlt]
  · simp [hij]

/-- Copying some working records changes their places and no others. -/
lemma Sound.getElem?_foldl_republish (h : s.Sound) {ids : List Int}
    (hids : ∀ id ∈ ids, ∃ i : ℕ, id = i ∧ i < s.working.length) (published : List CallRecord)
    (i : ℕ) :
    (ids.foldl s.republish published)[i]? =
      if (i : Int) ∈ ids ∧ i < published.length then s.working[i]? else published[i]? := by
  induction ids generalizing published with
  | nil => simp
  | cons id ids ih =>
    obtain ⟨j, rfl, hj⟩ := hids id List.mem_cons_self
    have hlen : (s.republish published j).length = published.length :=
      length_foldl_republish s [(j : Int)] published
    rw [List.foldl_cons, ih (fun id hid => hids id (List.mem_cons_of_mem _ hid)), hlen,
      h.getElem?_republish hj]
    have hcast : (i : Int) = j ↔ j = i := by omega
    by_cases hin : (i : Int) ∈ ids
    · by_cases hlt : i < published.length <;> simp [hin, hlt]
    · by_cases hij : j = i <;> simp [hin, hij, hcast]

/-- The records appended since the last publishing carry the numbers from there on. -/
lemma Sound.mem_fresh (h : s.Sound) {i n : ℕ} (hi : i < s.working.length) :
    ((s.working.drop n).any fun r => r.callId == (i : Int)) = decide (n ≤ i) := by
  rw [Bool.eq_iff_iff, List.any_eq_true, decide_eq_true_eq]
  constructor
  · rintro ⟨r, hr, hid⟩
    obtain ⟨k, hk⟩ := List.mem_iff_getElem?.mp hr
    rw [List.getElem?_drop] at hk
    have hnum := h.numbered (n + k) r hk
    rw [beq_iff_eq, hnum] at hid
    omega
  · intro hle
    refine ⟨s.working[i], List.mem_iff_getElem?.mpr ⟨i - n, ?_⟩, ?_⟩
    · rw [List.getElem?_drop, Nat.add_sub_cancel' hle, List.getElem?_eq_getElem hi]
    · rw [beq_iff_eq]
      exact h.numbered i _ (List.getElem?_eq_getElem hi)

/-- If all differences are noted, publishing is a full copy of the working records. -/
theorem Sound.publish_eq (h : s.Sound) (hn : s.Noted) :
    s.publish = { s with dirty := [], published := s.working } := by
  unfold publish
  split
  · -- nothing to do: there is no dirty call and no new one
    rename_i hidle
    simp only [Bool.and_eq_true, List.isEmpty_iff, beq_iff_eq] at hidle
    have hsame : s.published = s.working := by
      refine List.ext_getElem? fun i => ?_
      by_cases hi : i < s.published.length
      · exact hn.agree i hi (by simp [hidle.1])
      · rw [List.getElem?_eq_none (by omega), List.getElem?_eq_none (by omega)]
    obtain ⟨working, places, nextId, depth, dirty, published⟩ := s
    obtain rfl : published = working := hsame
    obtain rfl : dirty = [] := hidle.1
    rfl
  · have hcopy : (s.dirty.filter fun id =>
          !(s.working.drop s.published.length).any fun r => r.callId == id).foldl
          s.republish (s.published ++ s.working.drop s.published.length) = s.working := by
      refine List.ext_getElem? fun i => ?_
      rw [h.getElem?_foldl_republish fun id hid => hn.known id (List.mem_filter.mp hid).1]
      have hlen := hn.length_le
      -- a place that was published before is copied if it is dirty, and every other one is new
      by_cases hi : i < s.published.length
      · have hlt : i < s.working.length := by omega
        have hold : ¬ s.published.length ≤ i := by omega
        have happ : (s.published ++ s.working.drop s.published.length)[i]? = s.published[i]? :=
          List.getElem?_append_left hi
        by_cases hd : (i : Int) ∈ s.dirty
        · simp [hd, h.mem_fresh hlt, hold, Nat.lt_add_right _ hi]
        · simp [hd, happ, hn.agree i hi hd]
      · have happ : (s.published ++ s.working.drop s.published.length)[i]? = s.working[i]? := by
          rw [List.getElem?_append_right (by omega), List.getElem?_drop]
          congr 1
          omega
        rw [happ, ite_self]
    simp only [hcopy]

/-! ## Every operation keeps a store coherent -/

/-- A new store is coherent. -/
lemma Coherent.empty : Coherent {} where
  toSound := .empty
  length_le := Nat.le_refl _
  agree i hi := absurd hi (Nat.not_lt_zero i)
  known _ hid := absurd hid List.not_mem_nil
  placed i r hr := by cases hr
  settled _ := ⟨rfl, rfl⟩

/-- Settling makes a store coherent whose differences are noted. -/
lemma Sound.settle_coherent (h : s.Sound) (hn : s.Noted) : s.settle.Coherent := by
  unfold settle
  split
  · rename_i hb
    refine { h, hn with settled := fun hd => ?_ }
    simp [inBatch, hd] at hb
  · rw [h.publish_eq hn]
    exact
      { toSound := h.congr ⟨rfl, rfl, rfl⟩
        length_le := Nat.le_refl _
        agree := fun _ _ _ => rfl
        known := fun _ hid => absurd hid List.not_mem_nil
        placed := h.numbered
        settled := fun _ => ⟨rfl, rfl⟩ }

/-- Noting a change adds the number of the call to the dirty ones. -/
lemma mem_dirty_marked {id j : Int} : id ∈ (s.marked j).dirty ↔ id ∈ s.dirty ∨ id = j := by
  unfold marked
  dsimp only
  split
  · rename_i hin
    have hj : j ∈ s.dirty := by simpa using hin
    constructor
    · exact Or.inl
    · rintro (hid | rfl)
      · exact hid
      · exact hj
  · simp

/-- A new record is noted by its number. -/
lemma Sound.noted_added (h : s.Sound) (hn : s.Noted) (r : CallRecord) :
    ((s.added r).marked s.nextId).Noted := by
  have hlen : (s.added r).working.length = s.working.length + 1 := by simp
  refine ⟨?_, ?_, ?_, hn.placed⟩
  · rw [working_marked, hlen]
    exact Nat.le_succ_of_le hn.length_le
  · intro i hi hd
    have hlt : i < s.working.length := Nat.lt_of_lt_of_le hi hn.length_le
    have hold : (i : Int) ∉ s.dirty := fun hin => hd (mem_dirty_marked.mpr (Or.inl hin))
    rw [working_marked, working_added, List.getElem?_append_left hlt]
    exact hn.agree i hi hold
  · intro id hid
    rw [working_marked, hlen]
    rcases mem_dirty_marked.mp hid with hid | rfl
    · obtain ⟨i, rfl, hi⟩ := hn.known id hid
      exact ⟨i, rfl, Nat.lt_succ_of_lt hi⟩
    · exact ⟨s.nextId, rfl, by rw [h.nextId_eq]; exact Nat.lt_succ_self _⟩

/-- A revised record is noted by its number. -/
lemma Noted.setAt (hn : s.Noted) {i : ℕ} (hi : i < s.working.length) (r : CallRecord) :
    ((s.setAt i r).marked i).Noted := by
  have hlen : (s.setAt i r).working.length = s.working.length := List.length_set
  refine ⟨?_, ?_, ?_, hn.placed⟩
  · rw [working_marked, hlen]
    exact hn.length_le
  · intro j hj hd
    have hold : (j : Int) ∉ s.dirty := fun hin => hd (mem_dirty_marked.mpr (Or.inl hin))
    have hne : i ≠ j := fun heq => hd (mem_dirty_marked.mpr (Or.inr (by rw [heq])))
    rw [working_marked, working_setAt, List.getElem?_set_ne hne]
    exact hn.agree j hj hold
  · intro id hid
    rw [working_marked, hlen]
    rcases mem_dirty_marked.mp hid with hid | rfl
    · exact hn.known id hid
    · exact ⟨i, rfl, hi⟩

/-- Writing the record that is decided on keeps a store sound, and the change is noted. -/
lemma Coherent.of_decision (h : s.Coherent) {e : Event} {id? : Option Int} {r' : CallRecord}
    (hd : s.decision e id? = .ok r') :
    ((s.written id? r').marked r'.callId).Sound ∧ ((s.written id? r').marked r'.callId).Noted := by
  obtain ⟨he, hid⟩ := h.takes_of_decision hd
  cases id? with
  | none =>
    rw [decision_new he] at hd
    cases hd
    exact ⟨(h.toSound.added he).congr (sameCalls_marked _ _), h.toSound.noted_added h.toNoted _⟩
  | some id =>
    obtain ⟨r, hr, hprotocol⟩ := hid id rfl
    obtain ⟨i, rfl, hi⟩ := h.exists_of_find? hr
    have hlt : i < s.working.length := (List.getElem?_eq_some_iff.mp hi).1
    have hnumber : (r.revisedBy e).callId = i := h.numbered i r hi
    rw [h.decision_known hi hprotocol he] at hd
    cases hd
    dsimp only [written]
    rw [h.replace_eq hlt, hnumber]
    exact ⟨(h.toSound.setAt hi e).congr (sameCalls_marked _ _), h.toNoted.setAt hlt _⟩

/-- Storing an event keeps a store coherent, whether the event is refused or not. -/
theorem Coherent.upsert (h : s.Coherent) (e : Event) (id? : Option Int) :
    (s.upsert e id?).2.Coherent := by
  rw [upsert_eq]
  cases hd : s.decision e id? with
  | error refusal => exact h
  | ok r =>
    obtain ⟨hsound, hnoted⟩ := h.of_decision hd
    exact hsound.settle_coherent hnoted

/-- Opening a batch keeps a store coherent. -/
lemma Coherent.enter (h : s.Coherent) : s.enter.Coherent where
  toSound := h.toSound.congr (sameCalls_enter s)
  length_le := h.length_le
  agree := h.agree
  known := h.known
  placed := h.placed
  settled hd := absurd hd (Nat.succ_ne_zero s.depth)

/-- Leaving a batch keeps a store coherent. -/
lemma Coherent.leave (h : s.Coherent) : s.leave.Coherent :=
  Sound.settle_coherent (h.toSound.congr ⟨rfl, rfl, rfl⟩) ⟨h.length_le, h.agree, h.known, h.placed⟩

/-- A store that has forgotten all calls is coherent. -/
lemma coherent_clear (s : Store) : s.clear.Coherent where
  nextId_eq := rfl
  places_eq := rfl
  numbered i r hr := by cases hr
  kinded r hr := absurd hr List.not_mem_nil
  length_le := Nat.le_refl _
  agree i hi := absurd hi (Nat.not_lt_zero i)
  known _ hid := absurd hid List.not_mem_nil
  placed i r hr := by cases hr
  settled _ := ⟨rfl, rfl⟩

/-- While no batch is open, a coherent store is determined by its working records. -/
lemma Coherent.eq_of_settled {t : Store} (h : s.Coherent) (ht : t.Coherent) (hd : s.depth = 0)
    (hdt : t.depth = 0) (hworking : s.working = t.working) : s = t := by
  obtain ⟨hpublished, hdirty⟩ := h.settled hd
  obtain ⟨hpublished', hdirty'⟩ := ht.settled hdt
  obtain ⟨-, hplaces, hnext⟩ := h.toIndexed.sameCalls ht.toIndexed hworking
  cases s
  cases t
  simp_all

/-! ## What readers find -/

/-- A published record is found under its number. -/
lemma get?_natCast (s : Store) (i : ℕ) : s.get? i = s.published[i]? := by
  simp [get?]

/-- Every published record has the number of its place. -/
lemma Coherent.exists_of_get? (h : s.Coherent) {id : Int} {r : CallRecord}
    (hr : s.get? id = some r) :
    ∃ i : ℕ, id = i ∧ s.published[i]? = some r ∧ i < s.working.length := by
  unfold get? at hr
  split at hr
  · rename_i hpos
    refine ⟨id.toNat, by omega, hr, ?_⟩
    exact Nat.lt_of_lt_of_le (List.getElem?_eq_some_iff.mp hr).1 h.length_le
  · cases hr

/-- While no batch is open, readers find exactly the calls that were created. -/
lemma Coherent.knows_eq (h : s.Coherent) (hd : s.depth = 0) (id : Int) :
    s.knows id = (s.get? id).isSome := by
  rw [Bool.eq_iff_iff, h.knows_iff, Option.isSome_iff_exists]
  constructor
  · rintro ⟨i, rfl, hi⟩
    exact ⟨s.working[i], by rw [get?_natCast, (h.settled hd).1, List.getElem?_eq_getElem hi]⟩
  · rintro ⟨r, hr⟩
    obtain ⟨i, rfl, -, hi⟩ := h.exists_of_get? hr
    exact ⟨i, rfl, hi⟩

end Store

end VoipCalls
