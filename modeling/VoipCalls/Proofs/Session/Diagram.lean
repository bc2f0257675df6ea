import VoipCalls.Proofs.Intake.Refusal
import VoipCalls.Proofs.Sequence.Order
import VoipCalls.Proofs.Session.Runs

/-!
# The flow diagram

The flow diagram of a selection draws the index of the session itself.  When it is handed over, it
shows the events of the selected calls in the order of their frames.  Packets that are taken
afterwards are appended to the same index, and an event is shown when it is appended, whatever its
call.

`Session.diagram_afterHandoff` says so of every session: behind what was handed over comes one event
for each packet that was accepted since, so that the diagram keeps to the selection exactly as long
as the packets do.

The order of the index is the subject of `Reachable.marked_sequence`: in every session the mark of
the index can be trusted.
-/

namespace VoipCalls

namespace Intake

/-- The sequence event of an event that is stored, with the number that the store answers. -/
def arrival (x : Intake) (e : Event) : SequenceEvent :=
  sequenceEvent e ((x.store.upsert e (x.knownCall e)).1.toOption.getD 0) e.frameNumber e.seconds

/-- An accepted event is appended to the sequence index, and any other one leaves it alone. -/
lemma sequence_packet (x : Intake) (e : Event) :
    (x.packet e).2.sequence =
      if (x.packet e).1 = .accepted then x.sequence.append (x.arrival e) else x.sequence := by
  by_cases haccepted : (x.packet e).1 = .accepted
  · obtain ⟨-, call, hcall, hx⟩ := exists_of_accepted haccepted
    rw [if_pos haccepted, hx, arrival, hcall]
    rfl
  · obtain ⟨malformed, ignored, hx⟩ := exists_counting haccepted
    rw [if_neg haccepted, hx]
    rfl

/-- The sequence events of those of some events that are accepted one after the other. -/
def arrivals (x : Intake) : List Event → List SequenceEvent
  | [] => []
  | e :: es =>
    if (x.packet e).1 = .accepted then x.arrival e :: (x.packet e).2.arrivals es
    else (x.packet e).2.arrivals es

/-- What arrives is shown. -/
lemma filter_display_arrivals (x : Intake) (es : List Event) :
    (x.arrivals es).filter (·.display) = x.arrivals es := by
  induction es generalizing x with
  | nil => rfl
  | cons e es ih =>
    unfold arrivals
    split
    · rw [List.filter_cons_of_pos rfl, ih]
    · exact ih _

end Intake

namespace Session

variable {s : Session} {selected : List Int}

/-! ## The mark of the index -/

/-- Every operation keeps the mark right. -/
lemma marked_perform (h : s.intake.sequence.Marked) (op : Operation) :
    (s.perform op).intake.sequence.Marked := by
  cases op with
  | packet e =>
    change (s.intake.packet e).2.sequence.Marked
    rw [Intake.sequence_packet]
    split
    · exact h.append _
    · exact h
  | showSequence selected =>
    rcases s.perform_showSequence selected with hsession | hsession <;> rw [hsession]
    · exact h
    · exact fun _ => h.isOrdered_showOnly selected
  | openCapture => exact SequenceIndex.marked_of_isEmpty rfl
  | draw =>
    obtain ⟨redraw, hx⟩ := s.intake_draw
    change s.draw.session.intake.sequence.Marked
    rw [hx]
    exact h
  | activate id =>
    rw [perform_activate]
    exact h
  | prepareFilter selected =>
    rw [perform_prepareFilter]
    exact h
  | closeCapture | enter | leave | refresh | sortBy => exact h

/-- In every session that a run leads to the mark is right. -/
theorem Reachable.marked_sequence (h : s.Reachable) : s.intake.sequence.Marked := by
  obtain ⟨settings, allFlows, ops, rfl⟩ := h
  induction ops using List.reverseRecOn with
  | nil => exact SequenceIndex.marked_of_isEmpty rfl
  | append_singleton ops op ih =>
    rw [run_append]
    exact marked_perform ih op

/-! ## What the diagram shows -/

/-- What is shown of a selection are its events, in the order of the sorted index. -/
lemma visible_showOnly (x : SequenceIndex) (selected : List Int) :
    (x.showOnly selected).visible =
      (x.sortStable.items.filter fun q => selected.contains q.call).map Intake.shown := by
  unfold SequenceIndex.showOnly SequenceIndex.setVisibility SequenceIndex.visible
  rw [List.filter_map]
  refine List.map_congr_left fun q hq => ?_
  have hsel : selected.contains q.call = true := (List.mem_filter.mp hq).2
  rw [hsel]
  rfl

/-- Taking packets appends what arrives to the index. -/
lemma items_run_packets (s : Session) (es : List Event) :
    (s.run (es.map .packet)).intake.sequence.items =
      s.intake.sequence.items ++ s.intake.arrivals es := by
  induction es generalizing s with
  | nil => exact (List.append_nil _).symm
  | cons e es ih =>
    have hstep : (s.run ((e :: es).map .packet)).intake.sequence.items =
        (s.intake.packet e).2.sequence.items ++ (s.intake.packet e).2.arrivals es :=
      ih (s.packet e).session
    rw [hstep, Intake.sequence_packet, Intake.arrivals]
    split
    · change (_ ++ [_]) ++ _ = _
      rw [List.append_assoc, List.singleton_append]
    · rfl

/-- Whatever the session, the diagram that is handed over shows the events of the selected calls, in
the order of the sorted index.  As long as nothing but packets is taken afterwards, these stay as
they are, and behind them comes one event for each packet that is accepted, whatever its call.  So
the diagram keeps to the selection exactly if all the packets do. -/
theorem diagram_afterHandoff (s : Session) {selected : List Int} {h : Handoff}
    (hshow : (s.showSequence selected).value = some h) (es : List Event) :
    (s.showSequence selected).session.diagram =
      (s.intake.sequence.sortStable.items.filter fun q => h.selected.contains q.call).map
        Intake.shown ∧
    ((s.showSequence selected).session.run (es.map .packet)).diagram =
      (s.showSequence selected).session.diagram ++
        (s.showSequence selected).session.intake.arrivals es ∧
    (∀ q ∈ (s.showSequence selected).session.diagram, q.call ∈ h.selected) ∧
    ((∀ q ∈ ((s.showSequence selected).session.run (es.map .packet)).diagram,
        q.call ∈ h.selected) ↔
      ∀ q ∈ (s.showSequence selected).session.intake.arrivals es, q.call ∈ h.selected) := by
  obtain ⟨rfl, hindex⟩ : h = s.intake.sequence.handoff selected ∧
      (s.showSequence selected).session.intake.sequence =
        s.intake.sequence.showOnly selected := by
    rcases s.showSequence_cases selected with ⟨hvalue, -⟩ | ⟨hvalue, hsession⟩
    · rw [hvalue] at hshow
      cases hshow
    · rw [hvalue] at hshow
      rw [hsession]
      exact ⟨(Option.some.inj hshow).symm, rfl⟩
  have hfirst : (s.showSequence selected).session.diagram =
      (s.intake.sequence.sortStable.items.filter fun q => selected.contains q.call).map
        Intake.shown := by
    unfold diagram
    rw [hindex]
    exact visible_showOnly s.intake.sequence selected
  have hbehind : ((s.showSequence selected).session.run (es.map .packet)).diagram =
      (s.showSequence selected).session.diagram ++
        (s.showSequence selected).session.intake.arrivals es := by
    unfold diagram SequenceIndex.visible
    rw [items_run_packets, List.filter_append, Intake.filter_display_arrivals]
  have hkeeps : ∀ q ∈ (s.showSequence selected).session.diagram, q.call ∈ selected := by
    rw [hfirst]
    intro q hq
    obtain ⟨q', hq', rfl⟩ := List.mem_map.mp hq
    exact List.contains_iff_mem.mp (List.mem_filter.mp hq').2
  refine ⟨hfirst, hbehind, hkeeps, ?_⟩
  rw [hbehind, List.forall_mem_append]
  exact ⟨And.right, fun hall => ⟨hkeeps, hall⟩⟩

/-- A session with two calls. -/
def twoCalls : Session :=
  (Session.new {} none).run
    [.openCapture,
      .packet
        { protocol := .mgcp, frame := some 2, time := some (.whole 0), key := some (.whole 7) },
      .packet
        { protocol := .h248, frame := some 3, time := some (.whole 0), key := some (.whole 7) }]

/-- A packet of the first call that comes late. -/
def ownPacket : Event :=
  { protocol := .mgcp, frame := some 1, time := some (.whole 1), key := some (.whole 7) }

/-- Another packet of the second call. -/
def foreignPacket : Event :=
  { protocol := .h248, frame := some 4, time := some (.whole 1), key := some (.whole 7) }

/-- The diagram of the first call keeps to it when a packet of it comes in, and when that comes in
again. -/
theorem diagram_ownPacket :
    (twoCalls.showSequence [0]).value = some ⟨voipAnalysis, [0]⟩ ∧
    ((twoCalls.showSequence [0]).session.run
        ([ownPacket, ownPacket].map .packet)).diagram.map (·.frame) = [2, 1] ∧
    ∀ q ∈ ((twoCalls.showSequence [0]).session.run
        ([ownPacket, ownPacket].map .packet)).diagram, q.call ∈ [0] := by
  have hshow : (twoCalls.showSequence [0]).value = some ⟨voipAnalysis, [0]⟩ := by decide
  obtain ⟨-, -, -, hkeeps⟩ := diagram_afterHandoff twoCalls hshow [ownPacket, ownPacket]
  have harrivals : ∀ q ∈ (twoCalls.showSequence [0]).session.intake.arrivals
      [ownPacket, ownPacket], q.call ∈ [0] := by decide
  exact ⟨hshow, by decide, hkeeps.mpr harrivals⟩

/-- It does not keep to the first call when a packet of the second one comes in. -/
theorem diagram_foreignPacket :
    (twoCalls.showSequence [0]).value = some ⟨voipAnalysis, [0]⟩ ∧
    ∃ q ∈ ((twoCalls.showSequence [0]).session.run ([foreignPacket].map .packet)).diagram,
      q.frame = 4 ∧ q.call ∉ [0] := by
  decide

end Session

end VoipCalls
