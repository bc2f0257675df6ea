import Mathlib.Tactic.Lemma
import VoipCalls.Sequence

/-!
# The order of the sequence index

Events are appended to the index as they arrive, and it is sorted by their frames only when it is
drawn.  The index keeps a mark that tells whether its events are in order, and skips the sort while
they are.

The mark is set back by an append that breaks the order, and nothing else can break it.  So a mark
that is set can be trusted (`SequenceIndex.Marked`), and the sort that is skipped would have changed
nothing (`Marked.items_sortStable`).  As long as events are only appended, a mark that is not set
can be trusted, too (`SequenceIndex.Exact`).
-/

namespace VoipCalls.SequenceIndex

variable {x : SequenceIndex}

/-- The events are in the order of their frames. -/
def IsOrdered (x : SequenceIndex) : Prop :=
  x.items.Pairwise fun q q' => q.frame ≤ q'.frame

/-- If the events are marked as being in order, they are. -/
def Marked (x : SequenceIndex) : Prop :=
  x.inOrder = true → x.IsOrdered

/-! ## What keeps the mark right -/

/-- In an index without events they are in order. -/
lemma marked_of_isEmpty (h : x.items = []) : x.Marked := by
  intro _
  rw [IsOrdered, h]
  exact List.Pairwise.nil

/-- In an ordered list no event has a later frame than the last one. -/
lemma IsOrdered.le_getLast (h : x.IsOrdered) {last q : SequenceEvent}
    (hlast : x.items.getLast? = some last) (hq : q ∈ x.items) : q.frame ≤ last.frame := by
  obtain ⟨init, hinit⟩ := List.getLast?_eq_some_iff.mp hlast
  rw [IsOrdered, hinit, List.pairwise_append] at h
  rw [hinit] at hq
  rcases List.mem_append.mp hq with hq | hq
  · exact h.2.2 q hq last (List.mem_singleton_self last)
  · obtain rfl := List.mem_singleton.mp hq
    exact Int.le_refl _

/-- An event keeps the order if it does not have an earlier frame than the last one. -/
lemma Marked.append (h : x.Marked) (q : SequenceEvent) : (x.append q).Marked := by
  intro hmark
  unfold SequenceIndex.append at hmark
  change (x.items ++ [q]).Pairwise _
  rw [List.pairwise_append]
  cases hlast : x.items.getLast? with
  | none =>
    rw [List.getLast?_eq_none_iff] at hlast
    rw [hlast]
    exact ⟨.nil, List.pairwise_singleton _ _, fun _ hin => absurd hin List.not_mem_nil⟩
  | some last =>
    simp only [hlast, Bool.and_eq_true, decide_eq_true_eq] at hmark
    have hordered := h hmark.1
    refine ⟨hordered, List.pairwise_singleton _ _, fun q' hq' q'' hq'' => ?_⟩
    rw [List.mem_singleton.mp hq'']
    exact Int.le_trans (hordered.le_getLast hlast hq') hmark.2

/-- Which events are shown has no part in their order. -/
lemma IsOrdered.setVisibility (h : x.IsOrdered) (shown : Int → Bool) :
    (x.setVisibility shown).IsOrdered :=
  List.pairwise_map.mpr h

/-! ## What keeps the mark exact -/

/-- If the events are in order, they are marked as being so. -/
def Exact (x : SequenceIndex) : Prop :=
  x.IsOrdered → x.inOrder = true

/-- An append sets the mark back only if it breaks the order. -/
lemma Exact.append (h : x.Exact) (q : SequenceEvent) : (x.append q).Exact := by
  intro hordered
  have hparts : (x.items ++ [q]).Pairwise fun q q' => q.frame ≤ q'.frame := hordered
  rw [List.pairwise_append] at hparts
  obtain ⟨hbefore, -, hlater⟩ := hparts
  have hmark : x.inOrder = true := h hbefore
  unfold SequenceIndex.append
  cases hlast : x.items.getLast? with
  | none => exact hmark
  | some last =>
    have hle : last.frame ≤ q.frame :=
      hlater last (List.mem_of_getLast? hlast) q (List.mem_singleton_self q)
    simp [hmark, hle]

/-! ## Sorting -/

/-- Whether an event does not have a later frame than another. -/
def frameLe (q q' : SequenceEvent) : Bool :=
  !decide (q'.frame < q.frame)

lemma frameLe_iff {q q' : SequenceEvent} : frameLe q q' = true ↔ q.frame ≤ q'.frame := by
  simp [frameLe]

/-- The events are sorted, whether they are marked as being in order or not: a marked index is not
changed by the sort. -/
lemma Marked.items_sortStable (h : x.Marked) : x.sortStable.items = x.items.mergeSort frameLe := by
  unfold sortStable
  split
  · rename_i hmark
    have hsorted : x.items.Pairwise fun q q' => frameLe q q' = true :=
      (h hmark).imp fun hle => frameLe_iff.mpr hle
    exact (List.mergeSort_of_pairwise hsorted).symm
  · rfl

/-- After the sort the events are in order. -/
lemma Marked.isOrdered_sortStable (h : x.Marked) : x.sortStable.IsOrdered := by
  have hsorted : (x.items.mergeSort frameLe).Pairwise fun q q' => frameLe q q' = true := by
    apply List.pairwise_mergeSort
    · intro q q' q'' hqq' hqq''
      rw [frameLe_iff] at hqq' hqq'' ⊢
      exact Int.le_trans hqq' hqq''
    · intro q q'
      rw [Bool.or_eq_true, frameLe_iff, frameLe_iff]
      exact Int.le_total q.frame q'.frame
  rw [IsOrdered, h.items_sortStable]
  exact hsorted.imp fun hle => frameLe_iff.mp hle

/-- Preparing the diagram of a selection brings the events into order. -/
lemma Marked.isOrdered_showOnly (h : x.Marked) (selected : List Int) :
    (x.showOnly selected).IsOrdered :=
  h.isOrdered_sortStable.setVisibility _

end VoipCalls.SequenceIndex
