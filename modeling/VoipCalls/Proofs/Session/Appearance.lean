import VoipCalls.Proofs.Filter.Viewing
import VoipCalls.Proofs.Session.Accounting

/-!
# How a session looks

A host that goes to a frame, prepares a filter or shows the flow of a selection reads the records
and the events of the sequence index.  It is not told how the table is sorted, and while the index
is in order of the frames it is not told which events were shown before.

`Session.LooksAs` says that two sessions agree in what is read.  Sorting the table, showing a flow
and closing the capture keep it, and sessions that look the same answer the same, except that a
closed one shows nothing.  After a replay the index is in order (`Session.inOrder_replay`), since
the frames of a capture ascend.
-/

namespace VoipCalls

/-- A filter by frame does not depend on which events are shown. -/
lemma frameFilter_congr {x y : SequenceIndex}
    (h : x.items.map Intake.shown = y.items.map Intake.shown) (selected : List Int)
    (store : Option Store) : frameFilter selected x store = frameFilter selected y store := by
  have hshown : ∀ z : SequenceIndex, frameFilter selected z store =
      disjunction ((((z.items.map Intake.shown).filter fun q => selected.contains q.call).filter
        fun q => knownIn store q.call).map fun q => frameClause q.frame) := by
    intro z
    rw [List.filter_map, List.filter_map, List.map_map]
    rfl
  rw [hshown, hshown, h]

namespace Session

variable {s t : Session}

/-! ## Looking the same -/

/-- Two sessions look the same: they have the same settings and records and the same events in the
order of their frames, and differ at most in the tap, in the table, in which of the events are
shown, and in whether they are closed. -/
structure LooksAs (s t : Session) : Prop where
  /-- The settings are the same. -/
  settings : s.settings = t.settings
  /-- The records are the same. -/
  store : s.intake.store = t.intake.store
  /-- The events are the same, be they shown or not. -/
  events : s.intake.sequence.items.map Intake.shown = t.intake.sequence.items.map Intake.shown
  /-- The events of the first session are marked as being in order. -/
  inOrder_left : s.intake.sequence.inOrder = true
  /-- So are those of the second one. -/
  inOrder_right : t.intake.sequence.inOrder = true
  /-- The analysis is of the same kind. -/
  analysisType : s.intake.sequence.analysisType = t.intake.sequence.analysisType

/-- A session whose index is in order looks like itself. -/
lemma LooksAs.refl (h : s.intake.sequence.inOrder = true) : s.LooksAs s :=
  ⟨rfl, rfl, rfl, h, h, rfl⟩

/-- Looking the same goes both ways. -/
lemma LooksAs.symm (h : s.LooksAs t) : t.LooksAs s :=
  ⟨h.settings.symm, h.store.symm, h.events.symm, h.inOrder_right, h.inOrder_left,
    h.analysisType.symm⟩

/-! ## What keeps the look -/

/-- Sorting the table changes nothing of the look. -/
lemma LooksAs.sortBy (h : s.LooksAs t) (c : Column) (descending : Bool) :
    (s.sortBy c descending).LooksAs t :=
  ⟨h.settings, h.store, h.events, h.inOrder_left, h.inOrder_right, h.analysisType⟩

/-- Closing the capture changes nothing of the look. -/
lemma LooksAs.closeCapture (h : s.LooksAs t) : s.closeCapture.LooksAs t :=
  ⟨h.settings, h.store, h.events, h.inOrder_left, h.inOrder_right, h.analysisType⟩

/-- An index in order is not sorted. -/
lemma sortStable_of_inOrder {x : SequenceIndex} (h : x.inOrder = true) : x.sortStable = x :=
  if_pos h

/-- Showing a flow changes nothing of the look: the events were in order already, and it does not
matter which of them are shown. -/
lemma LooksAs.showSequence (h : s.LooksAs t) (selected : List Int) :
    (s.showSequence selected).session.LooksAs t := by
  rcases s.showSequence_cases selected with ⟨-, hsession⟩ | ⟨-, hsession⟩ <;> rw [hsession]
  · exact h
  · have hprepared : s.intake.sequence.showOnly selected =
        s.intake.sequence.setVisibility selected.contains := by
      unfold SequenceIndex.showOnly
      rw [sortStable_of_inOrder h.inOrder_left]
    have hevents : (s.intake.sequence.showOnly selected).items.map Intake.shown =
        s.intake.sequence.items.map Intake.shown := by
      rw [hprepared]
      unfold SequenceIndex.setVisibility
      rw [List.map_map]
      rfl
    refine ⟨h.settings, h.store, hevents.trans h.events, ?_, h.inOrder_right, ?_⟩
    · rw [hprepared]
      exact h.inOrder_left
    · rw [hprepared]
      exact h.analysisType

/-! ## What is read -/

/-- Sessions that look the same go to the same frame. -/
lemma LooksAs.value_activate (h : s.LooksAs t) (id : Int) :
    (s.activate id).value = (t.activate id).value := by
  have hvalue : ∀ u : Session, (u.activate id).value =
      (u.intake.store.get? id).bind (·.startFrame) := by
    intro u
    unfold Session.activate
    split
    · rename_i hnone
      exact hnone.symm
    · rename_i frame hsome
      exact hsome.symm
  rw [hvalue, hvalue, h.store]

/-- They prepare the same filters. -/
lemma LooksAs.value_prepareFilter (h : s.LooksAs t) (selected : List Int) :
    (s.prepareFilter selected).value = (t.prepareFilter selected).value := by
  rw [Session.value_prepareFilter, Session.value_prepareFilter]
  unfold buildFilter
  rw [frameFilter_congr h.events, h.store, h.settings]

/-- If both are open or both are closed, they hand over the same. -/
lemma LooksAs.value_showSequence (h : s.LooksAs t) (hclosed : s.closed = t.closed)
    (selected : List Int) : (s.showSequence selected).value = (t.showSequence selected).value := by
  have hvalue : ∀ u : Session, (u.showSequence selected).value =
      if u.closed || selected.isEmpty then none
      else some ⟨u.intake.sequence.analysisType, selected⟩ := by
    intro u
    unfold Session.showSequence
    split <;> rfl
  rw [hvalue, hvalue, hclosed, h.analysisType]

/-- And the diagram that is handed over shows the same. -/
lemma LooksAs.diagram_showSequence (h : s.LooksAs t) {selected : List Int} {handoff : Handoff}
    (hs : (s.showSequence selected).value = some handoff)
    (ht : (t.showSequence selected).value = some handoff) :
    (s.showSequence selected).session.diagram = (t.showSequence selected).session.diagram := by
  have hdiagram : ∀ u : Session, u.intake.sequence.inOrder = true →
      (u.showSequence selected).value = some handoff →
      (u.showSequence selected).session.diagram =
        (u.intake.sequence.items.map Intake.shown).filter fun q => selected.contains q.call := by
    intro u horder hvalue
    rcases u.showSequence_cases selected with ⟨hnone, -⟩ | ⟨-, hsession⟩
    · rw [hnone] at hvalue
      cases hvalue
    · rw [hsession, diagram, visible_showOnly, sortStable_of_inOrder horder, List.filter_map]
      rfl
  rw [hdiagram s h.inOrder_left hs, hdiagram t h.inOrder_right ht, h.events]

/-! ## Whether the session is closed -/

/-- Showing a flow neither closes the session nor opens it. -/
lemma closed_showSequence (s : Session) (selected : List Int) :
    (s.showSequence selected).session.closed = s.closed := by
  rcases s.showSequence_cases selected with ⟨-, hsession⟩ | ⟨-, hsession⟩ <;> rw [hsession]

/-- Neither does a redraw. -/
lemma closed_draw (s : Session) : s.draw.session.closed = s.closed := by
  unfold draw
  split <;> rfl

/-- Neither do events that are fed one by one. -/
lemma closed_foldl_feed (r : Reply ℕ) (es : List Event) :
    (es.foldl feed r).session.closed = r.session.closed := by
  induction es generalizing r with
  | nil => rfl
  | cons e es ih => exact ih (feed r e)

/-- A session is open after a replay. -/
lemma closed_replay (s : Session) (packets : List Packet) (batchSize : Int) :
    (s.replay packets batchSize).session.closed = false := by
  have hbatches : ∀ (batches : List (List Event)) (r : Reply ℕ),
      (batches.foldl feedBatch r).session.closed = r.session.closed := by
    intro batches
    induction batches with
    | nil => exact fun r => rfl
    | cons es batches ih =>
      intro r
      have hbatch : (feedBatch r es).session.closed = r.session.closed :=
        (closed_draw _).trans (closed_foldl_feed _ es)
      exact (ih (feedBatch r es)).trans hbatch
  exact (closed_draw _).trans (hbatches _ _)

/-! ## The index after a replay -/

/-- Taking packets keeps the mark of the index exact. -/
lemma exact_run_packets (h : s.intake.sequence.Exact) (es : List Event) :
    (s.run (es.map .packet)).intake.sequence.Exact := by
  induction es generalizing s with
  | nil => exact h
  | cons e es ih =>
    have hstep : (s.packet e).session.intake.sequence.Exact := by
      change (s.intake.packet e).2.sequence.Exact
      rw [Intake.sequence_packet]
      split
      · exact h.append _
      · exact h
    exact ih hstep

/-- Outside of all batches, the index is in order after a replay. -/
theorem inOrder_replay (h : s.intake.store.depth = 0) (packets : List Packet) (batchSize : Int) :
    (s.replay packets batchSize).session.intake.sequence.inOrder = true := by
  have hascending := (accounts_plainReplay h packets).ascending
  have hexact : (s.plainReplay packets).session.intake.sequence.Exact := by
    rw [session_plainReplay]
    exact exact_run_packets (fun _ => rfl) _
  rw [intake_replay h]
  exact hexact (hascending.imp Int.le_of_lt)

end Session

end VoipCalls
