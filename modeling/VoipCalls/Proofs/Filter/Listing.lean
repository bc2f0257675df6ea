import VoipCalls.Proofs.Filter.Fallback
import VoipCalls.Proofs.Filter.Meaning

/-!
# The frames of a filter and of the flow diagram

A selection of calls is filtered for by the frames of their packets, and the flow diagram shows the
same packets.  The two come about in different ways: the filter is compiled from the events of the
index whose calls the store knows, and the diagram marks the events of the selection after the index
was brought into order.

`Session.frameFilter_diagram` says that the frames that are read back from the filter are those of
the diagram, each as often, and that no event of the index is ever left out of the filter.
-/

namespace VoipCalls

namespace DisplayFilter

/-! ## Reading the frames back -/

/-- The frame that a comparison asks for. -/
def Conjunction.frame? : Conjunction → Option Int
  | .single (.test t) =>
    if t.field = "frame.number" ∧ t.comparison = .equal then t.operand.number? else none
  | _ => none

/-- The frames that a filter lists, if it is a list of frames. -/
def Disjunction.frames? : Disjunction → Option (List Int)
  | .single c => c.frame?.map fun n => [n]
  | .either f c => f.frames?.bind fun ns => c.frame?.map fun n => ns ++ [n]

/-- The frames that a text lists.  The empty text lists none. -/
def frames? (esc : Escapes) (s : String) : Option (List Int) :=
  match ofText? esc s with
  | some f => f.frames?
  | none => if s.isEmpty then some [] else none

/-- The comparison that asks for a frame. -/
def frameFactor (n : Int) : Factor :=
  .compare "frame.number" .equal (toString n)

variable {esc : Escapes}

lemma frame?_frameFactor (n : Int) : (Conjunction.single (frameFactor n)).frame? = some n := by
  rw [frameFactor, Factor.compare, Conjunction.frame?, if_pos ⟨rfl, rfl⟩]
  exact Operand.number?_toString n

/-- The frames of the alternatives come in their order. -/
lemma frames?_foldl {f : Disjunction} {ms : List Int} (hf : f.frames? = some ms) (ns : List Int) :
    ((ns.map frameFactor).foldl (fun f y => Disjunction.either f (.single y)) f).frames? =
      some (ms ++ ns) := by
  induction ns generalizing f ms with
  | nil => rw [List.map_nil, List.foldl_nil, hf, List.append_nil]
  | cons n ns ih =>
    have hstep : (Disjunction.either f (.single (frameFactor n))).frames? = some (ms ++ [n]) := by
      rw [Disjunction.frames?, hf, Option.bind_some, frame?_frameFactor, Option.map_some]
    rw [List.map_cons, List.foldl_cons, ih hstep, List.append_assoc, List.singleton_append]

lemma frames?_ofFactors (n : Int) (ns : List Int) :
    (Disjunction.ofFactors (frameFactor n) (ns.map frameFactor)).frames? = some (n :: ns) := by
  have hfirst : (Disjunction.single (.single (frameFactor n))).frames? = some [n] := by
    rw [Disjunction.frames?, frame?_frameFactor, Option.map_some]
  exact frames?_foldl hfirst ns

/-- The clause for a frame is a comparison. -/
lemma frameClause_eq_text (n : Int) : frameClause n = (frameFactor n).text := by
  have hequal : "frame.number == " = "frame.number" ++ " " ++ "==" ++ " " := rfl
  -- the equation of an interpolated text takes long to derive
  delta frameClause
  rw [frameFactor, Factor.compare, Factor.text, Test.text, hequal, toString_text]
  rfl

/-- A list of clauses for frames is a disjunction of comparisons. -/
lemma disjunction_frameClause (n : Int) (ns : List Int) :
    disjunction ((n :: ns).map frameClause) =
      (Disjunction.ofFactors (frameFactor n) (ns.map frameFactor)).text := by
  have hclauses : frameClause = Factor.text ∘ frameFactor := funext frameClause_eq_text
  rw [Disjunction.text_ofFactors, ← List.map_cons, List.map_map, disjunction, hclauses]

/-- The frames that are listed in a text can be read back from it. -/
lemma frames?_disjunction (ns : List Int) :
    frames? esc (disjunction (ns.map frameClause)) = some ns := by
  cases ns with
  | nil => rfl
  | cons n ns =>
    have hreadable : (Disjunction.ofFactors (frameFactor n) (ns.map frameFactor)).IsReadable := by
      refine Disjunction.isReadable_ofFactors ?_
      rw [← List.map_cons]
      intro x hx
      obtain ⟨m, -, rfl⟩ := List.mem_map.mp hx
      exact isReadable_compare .equal rfl (isWord_toString m)
    have hread : ofText? esc (Disjunction.ofFactors (frameFactor n) (ns.map frameFactor)).text =
        some (.ofFactors (frameFactor n) (ns.map frameFactor)) :=
      Disjunction.ofText?_text hreadable
    rw [frames?, disjunction_frameClause, hread]
    exact frames?_ofFactors n ns

end DisplayFilter

namespace Session

open DisplayFilter

variable {s : Session} {log : List Intake.Entry} {selected : List Int}

/-- The filter lists the frames of all selected events. -/
lemma Follows.listedEvents_eq (h : s.Follows log) (selected : List Int) :
    listedEvents selected s.intake.sequence s.intake.store =
      selectedEvents selected s.intake.sequence := by
  refine List.filter_eq_self.mpr fun q hq => ?_
  exact h.intake.knows_of_mem_items (List.mem_filter.mp hq).1

/-- No event is left out of it. -/
lemma Follows.danglingEvents_eq_nil (h : s.Follows log) (selected : List Int) :
    danglingEvents selected s.intake.sequence (some s.intake.store) = [] := by
  have hnone : ((selectedEvents selected s.intake.sequence).filter fun q =>
      !knownIn (some s.intake.store) q.call) = [] := by
    refine List.filter_eq_nil_iff.mpr fun q hq => ?_
    have hknown : knownIn (some s.intake.store) q.call = true :=
      h.intake.knows_of_mem_items (List.mem_filter.mp hq).1
    simp [hknown]
  rw [danglingEvents, hnone]
  rfl

/-- The diagram shows the frames of the selected events. -/
lemma perm_visible_showOnly (x : SequenceIndex) (selected : List Int) :
    ((x.showOnly selected).visible.map (·.frame)).Perm
      ((selectedEvents selected x).map (·.frame)) := by
  have hvisible : (x.showOnly selected).visible.map (·.frame) =
      (x.sortStable.items.filter fun q => selected.contains q.call).map (·.frame) := by
    unfold SequenceIndex.showOnly SequenceIndex.setVisibility SequenceIndex.visible
    rw [List.filter_map, List.map_map]
    rfl
  rw [hvisible]
  exact ((perm_sortStable x).filter _).map _

/-- For every selection that is not empty, the filter that lists frames and the flow diagram of an
open session agree: the frames that are read back from the filter are those that the diagram shows,
each as often.  No event is left out of the filter, and nothing is reported. -/
theorem frameFilter_diagram (esc : Escapes) (hs : s.Reachable) (hopen : s.closed = false)
    (hne : selected ≠ []) :
    (∃ frames,
      frames? esc (frameFilter selected s.intake.sequence (some s.intake.store)) = some frames ∧
      frames.Perm ((s.showSequence selected).session.diagram.map (·.frame))) ∧
    (s.showSequence selected).value = some (s.intake.sequence.handoff selected) ∧
    danglingEvents selected s.intake.sequence (some s.intake.store) = [] ∧
    (s.prepareFilter selected).alerts = [] := by
  obtain ⟨log, hlog⟩ := hs.exists_follows
  have hempty : selected.isEmpty = false := List.isEmpty_eq_false_iff.mpr hne
  have hshow : s.showSequence selected =
      { value := some (s.intake.sequence.handoff selected)
        session :=
          { s with
            intake := { s.intake with sequence := s.intake.sequence.showOnly selected } }
        hooks := [.sequenceReady (s.intake.sequence.handoff selected)] } := by
    rw [showSequence, hopen, hempty]
    rfl
  have hdangling := hlog.danglingEvents_eq_nil selected
  refine ⟨⟨(selectedEvents selected s.intake.sequence).map (·.frame), ?_, ?_⟩, ?_, hdangling, ?_⟩
  · have hclauses : ((selectedEvents selected s.intake.sequence).map (·.frame)).map frameClause =
        (selectedEvents selected s.intake.sequence).map fun q => frameClause q.frame :=
      List.map_map
    rw [frameFilter_eq, hlog.listedEvents_eq, ← hclauses]
    exact frames?_disjunction _
  · rw [hshow]
    exact (perm_visible_showOnly _ selected).symm
  · rw [hshow]
  · rw [prepareFilter, hempty]
    simp [hdangling]

/-- In a batch that is still open, the packets of a call come in against the order of their frames,
and one of another call comes between them. -/
def unordered : List Operation :=
  [.openCapture, .enter,
    .packet { protocol := .mgcp, frame := some 4, time := some (.whole 0), key := some (.whole 7) },
    .packet { protocol := .h248, frame := some 3, time := some (.whole 0), key := some (.whole 7) },
    .packet { protocol := .mgcp, frame := some 1, time := some (.whole 1), key := some (.whole 7) }]

/-- The filter lists the two frames as they came in, and they are those of the diagram. -/
theorem frameFilter_unordered :
    frames? .verbatim (frameFilter [0] ((Session.new {} none).run unordered).intake.sequence
      (some ((Session.new {} none).run unordered).intake.store)) = some [4, 1] ∧
    [4, 1].Perm ((((Session.new {} none).run unordered).showSequence [0]).session.diagram.map
      (·.frame)) ∧
    danglingEvents [0] ((Session.new {} none).run unordered).intake.sequence
      (some ((Session.new {} none).run unordered).intake.store) = [] := by
  have hreachable : ((Session.new {} none).run unordered).Reachable := ⟨{}, none, unordered, rfl⟩
  have hopen : ((Session.new {} none).run unordered).closed = false := by decide
  have hread : frames? .verbatim
      (frameFilter [0] ((Session.new {} none).run unordered).intake.sequence
        (some ((Session.new {} none).run unordered).intake.store)) = some [4, 1] := by decide
  obtain ⟨⟨frames, hframes, hperm⟩, -, hdangling, -⟩ :=
    frameFilter_diagram .verbatim hreachable hopen (List.cons_ne_nil 0 [])
  rw [hread] at hframes
  obtain rfl := Option.some.inj hframes
  exact ⟨hread, hperm, hdangling⟩

end Session

end VoipCalls
