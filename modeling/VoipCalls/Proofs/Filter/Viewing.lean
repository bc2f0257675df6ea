import VoipCalls.Proofs.Filter.Listing
import VoipCalls.Proofs.Session.Diagram

/-!
# Looking at the flow diagram and filtering

The filter by frame lists the frames in the order of the index, and the flow diagram sorts the
index.  Where packets came in against the order of their frames, a filter that is prepared after a
look at the diagram lists the same frames in another order.

`Session.prepareFilter_afterShowing` says that this is all the difference a look can make: the
filter takes the same form and lists the same frames, each as often, and its text is another one
only if the diagram was handed over and the frames did not stand in order before.
-/

namespace VoipCalls

/-- A clause in front makes a disjunction longer by itself and four characters. -/
lemma length_disjunction_cons (c : String) {cs : List String} (h : cs ≠ []) :
    (disjunction (c :: cs)).length = c.length + 4 + (disjunction cs).length := by
  obtain ⟨d, cs, rfl⟩ := List.exists_cons_of_ne_nil h
  have hword : " or ".length = 4 := rfl
  unfold disjunction
  rw [String.intercalate_cons_cons, String.length_append, String.length_append, hword]

/-- The order of the clauses has no part in the length of their disjunction. -/
lemma length_disjunction_of_perm {cs cs' : List String} (h : cs.Perm cs') :
    (disjunction cs).length = (disjunction cs').length := by
  induction h with
  | nil => rfl
  | @cons c cs cs' hperm ih =>
    by_cases hnil : cs = []
    · subst hnil
      rw [← hperm.nil_eq]
    · have hnil' : cs' ≠ [] := by
        rintro rfl
        exact hnil hperm.eq_nil
      rw [length_disjunction_cons c hnil, length_disjunction_cons c hnil', ih]
  | swap c d cs =>
    rw [length_disjunction_cons d (List.cons_ne_nil c cs),
      length_disjunction_cons c (List.cons_ne_nil d cs)]
    by_cases hnil : cs = []
    · subst hnil
      change d.length + 4 + c.length = c.length + 4 + d.length
      omega
    · rw [length_disjunction_cons c hnil, length_disjunction_cons d hnil]
      omega
  | trans _ _ ih ih' => exact ih.trans ih'

namespace Session

open DisplayFilter

variable {s : Session} {log : List Intake.Entry}

/-- Whether the list of frames of a selection exceeds the limit of the settings. -/
def isTooLong (s : Session) (selected : List Int) : Prop :=
  0 < s.settings.maxLength ∧ s.settings.maxLength <
    (frameFilter selected s.intake.sequence (some s.intake.store)).length

/-- A filter that is prepared lists the frames, or compares correlation fields where the list is too
long.  Of an empty selection it is empty in the same way. -/
lemma value_prepareFilter (s : Session) (selected : List Int) :
    (s.prepareFilter selected).value =
      buildFilter selected s.intake.sequence s.intake.store s.settings.maxLength := by
  unfold prepareFilter
  split
  · rename_i hempty
    obtain rfl := List.isEmpty_iff.mp hempty
    have hnone : selectedEvents [] s.intake.sequence = [] :=
      List.filter_eq_nil_iff.mpr fun q _ => Bool.false_ne_true
    have hlisted : frameFilter [] s.intake.sequence (some s.intake.store) = "" := by
      unfold frameFilter
      rw [hnone]
      rfl
    have hshort : ¬ (0 < (s.settings.maxLength : Int) ∧
        (s.settings.maxLength : Int) < ("" : String).length) := by
      have hzero : (("" : String).length : Int) = 0 := rfl
      omega
    unfold buildFilter
    rw [hlisted]
    exact (if_neg hshort).symm
  · rfl

/-- The frames of a selection, in the order of the index. -/
def framesOf (s : Session) (selected : List Int) : List Int :=
  (selectedEvents selected s.intake.sequence).map (·.frame)

/-- The filter by frame lists these frames. -/
lemma Follows.frameFilter_eq_framesOf (h : s.Follows log) (selected : List Int) :
    frameFilter selected s.intake.sequence (some s.intake.store) =
      disjunction ((s.framesOf selected).map frameClause) := by
  rw [frameFilter_eq, h.listedEvents_eq, framesOf, List.map_map]
  rfl

/-! ## What a look at the diagram does to the frames -/

/-- Once the index was prepared for a diagram, the frames of any selection are those of the sorted
index. -/
lemma map_frame_selectedEvents_showOnly (x : SequenceIndex) (shown selected : List Int) :
    (selectedEvents selected (x.showOnly shown)).map (·.frame) =
      (x.sortStable.items.filter fun q => selected.contains q.call).map (·.frame) := by
  unfold selectedEvents SequenceIndex.showOnly SequenceIndex.setVisibility
  rw [List.filter_map, List.map_map]
  rfl

/-- A look at the diagram keeps the frames of every selection, each as often. -/
lemma perm_framesOf_showSequence (s : Session) (shown selected : List Int) :
    ((s.showSequence shown).session.framesOf selected).Perm (s.framesOf selected) := by
  rcases s.showSequence_cases shown with ⟨-, hsession⟩ | ⟨-, hsession⟩ <;> rw [hsession]
  · unfold framesOf
    rw [map_frame_selectedEvents_showOnly]
    exact ((perm_sortStable s.intake.sequence).filter _).map _

/-- If the diagram is handed over, the frames stand in order afterwards. -/
lemma Reachable.framesOf_showSequence (h : s.Reachable) {shown : List Int}
    (hshow : (s.showSequence shown).value ≠ none) (selected : List Int) :
    ((s.showSequence shown).session.framesOf selected).Pairwise (· ≤ ·) := by
  rcases s.showSequence_cases shown with ⟨hvalue, -⟩ | ⟨-, hsession⟩
  · exact absurd hvalue hshow
  · rw [hsession, framesOf, map_frame_selectedEvents_showOnly]
    have hordered := h.marked_sequence.isOrdered_sortStable
    exact List.pairwise_map.mpr (hordered.filter _)

/-- The frames are listed as before exactly if nothing is handed over or they stand in order
already. -/
lemma Reachable.framesOf_showSequence_eq_iff (h : s.Reachable) (shown selected : List Int) :
    (s.showSequence shown).session.framesOf selected = s.framesOf selected ↔
      (s.showSequence shown).value = none ∨ (s.framesOf selected).Pairwise (· ≤ ·) := by
  by_cases hshow : (s.showSequence shown).value = none
  · rcases s.showSequence_cases shown with ⟨-, hsession⟩ | ⟨hvalue, -⟩
    · rw [hsession]
      exact ⟨fun _ => Or.inl hshow, fun _ => rfl⟩
    · rw [hvalue] at hshow
      cases hshow
  · have hordered := h.framesOf_showSequence hshow selected
    constructor
    · intro hsame
      right
      rw [← hsame]
      exact hordered
    · rintro (hnone | hordered')
      · exact absurd hnone hshow
      · -- two ordered lists of the same frames
        exact List.Perm.eq_of_pairwise (fun n m _ _ hle hge => Int.le_antisymm hle hge) hordered
          hordered' (perm_framesOf_showSequence s shown selected)

/-! ## What it does to the filter -/

/-- The list of frames is as long as before. -/
lemma Follows.length_frameFilter_showSequence (h : s.Follows log) (shown selected : List Int) :
    (frameFilter selected (s.showSequence shown).session.intake.sequence
      (some (s.showSequence shown).session.intake.store)).length =
        (frameFilter selected s.intake.sequence (some s.intake.store)).length := by
  have hafter := (h.perform (.showSequence shown)).frameFilter_eq_framesOf selected
  change frameFilter selected (s.showSequence shown).session.intake.sequence
    (some (s.showSequence shown).session.intake.store) = _ at hafter
  rw [hafter, h.frameFilter_eq_framesOf]
  exact length_disjunction_of_perm ((perm_framesOf_showSequence s shown selected).map _)

/-- A look changes neither the records nor the settings. -/
lemma frame_showSequence (s : Session) (shown : List Int) :
    (s.showSequence shown).session.intake.store = s.intake.store ∧
      (s.showSequence shown).session.settings = s.settings := by
  rcases s.showSequence_cases shown with ⟨-, hsession⟩ | ⟨-, hsession⟩ <;> rw [hsession]
  · exact ⟨rfl, rfl⟩
  · exact ⟨rfl, rfl⟩

/-- The filter is too long exactly if it was. -/
lemma Follows.isTooLong_showSequence (h : s.Follows log) (shown selected : List Int) :
    (s.showSequence shown).session.isTooLong selected ↔ s.isTooLong selected := by
  unfold isTooLong
  rw [h.length_frameFilter_showSequence, (s.frame_showSequence shown).2]

/-- A filter that is not too long lists the frames, and they can be read back from it. -/
lemma Follows.prepareFilter_of_not_isTooLong (h : s.Follows log) {selected : List Int}
    (hshort : ¬ s.isTooLong selected) :
    (s.prepareFilter selected).value = disjunction ((s.framesOf selected).map frameClause) := by
  rw [value_prepareFilter, ← h.frameFilter_eq_framesOf]
  exact if_neg fun hlong => hshort ⟨Int.natCast_pos.mp hlong.1, Int.ofNat_lt.mp hlong.2⟩

/-- A filter that is too long compares the fields of the published records. -/
lemma prepareFilter_of_isTooLong {selected : List Int} (hlong : s.isTooLong selected) :
    (s.prepareFilter selected).value = fieldFilter selected s.intake.store := by
  rw [value_prepareFilter]
  exact if_pos ⟨Int.natCast_pos.mpr hlong.1, Int.ofNat_lt.mpr hlong.2⟩

/-- The frames that are read back from a filter that is not too long. -/
lemma Follows.frames?_prepareFilter (h : s.Follows log) (esc : Escapes) {selected : List Int}
    (hshort : ¬ s.isTooLong selected) :
    frames? esc (s.prepareFilter selected).value = some (s.framesOf selected) := by
  rw [h.prepareFilter_of_not_isTooLong hshort]
  exact frames?_disjunction (s.framesOf selected)

/-- The text of a filter that is not too long is the same exactly if it lists the same frames in the
same order. -/
lemma Follows.prepareFilter_eq_iff {t : Session} {log' : List Intake.Entry} (h : s.Follows log)
    (h' : t.Follows log') {selected : List Int} (hs : ¬ s.isTooLong selected)
    (ht : ¬ t.isTooLong selected) :
    (t.prepareFilter selected).value = (s.prepareFilter selected).value ↔
      t.framesOf selected = s.framesOf selected := by
  constructor
  · intro htext
    have hread := h'.frames?_prepareFilter .verbatim ht
    rw [htext, h.frames?_prepareFilter .verbatim hs] at hread
    exact (Option.some.inj hread).symm
  · intro hframes
    rw [h'.prepareFilter_of_not_isTooLong ht, h.prepareFilter_of_not_isTooLong hs, hframes]

/-- A filter takes the same form, be it prepared just after a look at the flow diagram or without
one.  If it compares correlation fields, it is the same.  If it lists frames, it lists the same
ones, each as often, and in ascending order if the diagram was handed over.  So its text is the same
exactly if the diagram was not handed over or the frames are listed in ascending order without a
look, as they are of all selections while the events of the index are in order. -/
theorem prepareFilter_afterShowing (esc : Escapes) (hs : s.Reachable) (shown selected : List Int) :
    ((s.showSequence shown).session.isTooLong selected ↔ s.isTooLong selected) ∧
    (s.isTooLong selected →
      ((s.showSequence shown).session.prepareFilter selected).value =
        (s.prepareFilter selected).value) ∧
    (¬ s.isTooLong selected → ∃ frames frames',
      frames? esc (s.prepareFilter selected).value = some frames ∧
      frames? esc ((s.showSequence shown).session.prepareFilter selected).value = some frames' ∧
      frames'.Perm frames ∧
      ((s.showSequence shown).value ≠ none → frames'.Pairwise (· ≤ ·)) ∧
      (((s.showSequence shown).session.prepareFilter selected).value =
          (s.prepareFilter selected).value ↔
        (s.showSequence shown).value = none ∨ frames.Pairwise (· ≤ ·))) ∧
    (s.intake.sequence.IsOrdered →
      ((s.showSequence shown).session.prepareFilter selected).value =
        (s.prepareFilter selected).value) := by
  obtain ⟨log, h⟩ := hs.exists_follows
  have hafter : (s.showSequence shown).session.Follows log := h.perform (.showSequence shown)
  have hlong := h.isTooLong_showSequence shown selected
  have hfields : s.isTooLong selected →
      ((s.showSequence shown).session.prepareFilter selected).value =
        (s.prepareFilter selected).value := by
    intro hexceeds
    rw [prepareFilter_of_isTooLong hexceeds, prepareFilter_of_isTooLong (hlong.mpr hexceeds),
      (s.frame_showSequence shown).1]
  have hframes : ¬ s.isTooLong selected →
      (((s.showSequence shown).session.prepareFilter selected).value =
          (s.prepareFilter selected).value ↔
        (s.showSequence shown).value = none ∨ (s.framesOf selected).Pairwise (· ≤ ·)) := by
    intro hshort
    rw [h.prepareFilter_eq_iff hafter hshort (mt hlong.mp hshort)]
    exact hs.framesOf_showSequence_eq_iff shown selected
  refine ⟨hlong, hfields, fun hshort => ?_, fun hordered => ?_⟩
  · refine ⟨s.framesOf selected, (s.showSequence shown).session.framesOf selected,
      h.frames?_prepareFilter esc hshort, hafter.frames?_prepareFilter esc (mt hlong.mp hshort),
      perm_framesOf_showSequence s shown selected, fun hshow => ?_, hframes hshort⟩
    exact hs.framesOf_showSequence hshow selected
  · by_cases hexceeds : s.isTooLong selected
    · exact hfields hexceeds
    · have hascending : (s.framesOf selected).Pairwise (· ≤ ·) :=
        List.pairwise_map.mpr (hordered.filter _)
      exact (hframes hexceeds).mpr (Or.inr hascending)

/-- A session with a call of which the first packet comes in last, and another call. -/
def lateFrame : Session :=
  (Session.new {} none).run
    [.openCapture,
      .packet
        { protocol := .mgcp, frame := some 2, time := some (.whole 0), key := some (.whole 7) },
      .packet
        { protocol := .h248, frame := some 3, time := some (.whole 0), key := some (.whole 7) },
      .packet
        { protocol := .mgcp, frame := some 1, time := some (.whole 0), key := some (.whole 7) }]

lemma reachable_lateFrame : lateFrame.Reachable :=
  ⟨{}, none, _, rfl⟩

lemma not_isTooLong_lateFrame (selected : List Int) : ¬ lateFrame.isTooLong selected :=
  fun hlong => absurd hlong.1 (Nat.lt_irrefl 0)

/-- A look at the other call changes the filter of the call, although it lists the same frames, and
leaves the filter of the other call alone. -/
theorem prepareFilter_afterLook :
    (lateFrame.prepareFilter [0]).value = "frame.number == 2 or frame.number == 1" ∧
    frames? .verbatim ((lateFrame.showSequence [1]).session.prepareFilter [0]).value =
      some [1, 2] ∧
    ((lateFrame.showSequence [1]).session.prepareFilter [1]).value =
      (lateFrame.prepareFilter [1]).value := by
  have hshow : (lateFrame.showSequence [1]).value ≠ none := by decide
  refine ⟨by decide, ?_, ?_⟩
  · obtain ⟨-, -, hlist, -⟩ := prepareFilter_afterShowing .verbatim reachable_lateFrame [1] [0]
    obtain ⟨frames, frames', hbefore, hafter, hperm, hascending, -⟩ :=
      hlist (not_isTooLong_lateFrame [0])
    have hread : frames? .verbatim (lateFrame.prepareFilter [0]).value = some [2, 1] := by decide
    rw [hread] at hbefore
    obtain rfl := Option.some.inj hbefore
    have hsorted : ([1, 2] : List Int).Pairwise (· ≤ ·) := by decide
    have hframes : frames' = [1, 2] :=
      List.Perm.eq_of_pairwise (fun n m _ _ hle hge => Int.le_antisymm hle hge)
        (hascending hshow) hsorted (hperm.trans (.swap 1 2 []))
    rw [hafter, hframes]
  · obtain ⟨-, -, hlist, -⟩ := prepareFilter_afterShowing .verbatim reachable_lateFrame [1] [1]
    obtain ⟨frames, -, hbefore, -, -, -, hiff⟩ := hlist (not_isTooLong_lateFrame [1])
    have hread : frames? .verbatim (lateFrame.prepareFilter [1]).value = some [3] := by decide
    rw [hread] at hbefore
    obtain rfl := Option.some.inj hbefore
    exact hiff.mpr (Or.inr (List.pairwise_singleton _ _))

/-- A look at the call itself changes the filter of the call. -/
theorem prepareFilter_changed :
    lateFrame.Reachable ∧
    (lateFrame.prepareFilter [0]).value = "frame.number == 2 or frame.number == 1" ∧
    ((lateFrame.showSequence [0]).session.prepareFilter [0]).value ≠
      (lateFrame.prepareFilter [0]).value := by
  refine ⟨reachable_lateFrame, by decide, ?_⟩
  obtain ⟨log, h⟩ := reachable_lateFrame.exists_follows
  have hafter : (lateFrame.showSequence [0]).session.Follows log := h.perform (.showSequence [0])
  have hlong := h.isTooLong_showSequence [0] [0]
  have hshort := not_isTooLong_lateFrame [0]
  intro htext
  have hframes := (h.prepareFilter_eq_iff hafter hshort (mt hlong.mp hshort)).mp htext
  rcases (reachable_lateFrame.framesOf_showSequence_eq_iff [0] [0]).mp hframes with hnone | hsorted
  · exact absurd hnone (by decide)
  · exact absurd hsorted (by decide)

end Session

end VoipCalls
