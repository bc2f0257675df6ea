import Mathlib.Data.List.Induction
import VoipCalls.Proofs.Sequence.Order
import VoipCalls.Proofs.Sorting.Stability

/-!
# Runs of the sequence index

Between two sorts events are appended in any order, and a sort is skipped while the events are known
to be in order.  Neither the sorts in between nor the skipped ones leave a trace: whatever was done
before, to sort the index is to sort once, by their frames, the events that were appended since the
index was last cleared (`run_sorted`).

What is kept along a run is small.  The mark of an index can be trusted, and for each frame the
index holds the events of that frame as they were appended (`Follows`).  A sort moves no event
before another one of its frame, and a stable sort reads nothing but the events of each frame, as
they stand, so that both are kept by every operation (`Follows.perform`).

Which events are shown has no part in this.  Preparing the diagram of a selection therefore leaves
the appended events of the selected calls on display, in the order of their frames, and nothing
about an event is changed but whether it is shown (`Shows`).
-/

namespace VoipCalls.SequenceIndex

variable {x : SequenceIndex} {es es' : List SequenceEvent}

/-! ## Operations -/

/-- What is done with a sequence index. -/
inductive Operation
  | append (q : SequenceEvent)
  | sortStable
  | setVisibility (shown : Int → Bool)
  | clear

/-- Do one operation. -/
def perform (x : SequenceIndex) : Operation → SequenceIndex
  | .append q => x.append q
  | .sortStable => x.sortStable
  | .setVisibility shown => x.setVisibility shown
  | .clear => x.clear

/-- Do the operations one after another. -/
def run (x : SequenceIndex) (ops : List Operation) : SequenceIndex :=
  ops.foldl perform x

/-- The event, shown if its call satisfies a predicate. -/
def shownIf (shown : Int → Bool) (q : SequenceEvent) : SequenceEvent :=
  { q with display := shown q.call }

/-- What an operation adds to the events appended since the last clear. -/
def log (es : List SequenceEvent) : Operation → List SequenceEvent
  | .append q => es ++ [q]
  | .clear => []
  | .sortStable | .setVisibility _ => es

/-- The events that were appended since the last clear, in the order of the appends. -/
def appended (ops : List Operation) : List SequenceEvent :=
  ops.foldl log []

/-- What an operation makes of a log that also tells which events are shown. -/
def record (es : List SequenceEvent) : Operation → List SequenceEvent
  | .setVisibility shown => es.map (shownIf shown)
  | op => log es op

/-- The events that were appended since the last clear, in the order of the appends, each of them
shown as it was last told. -/
def recorded (ops : List Operation) : List SequenceEvent :=
  ops.foldl record []

/-! ## Sorting by frames -/

/-- The events sorted once by their frames, those of one frame in the order in which they stood. -/
def byFrame (es : List SequenceEvent) : List SequenceEvent :=
  Sorting.stableSort (fun q q' => decide (q.frame < q'.frame)) es

/-- How two events are compared by their frames. -/
def compareFrames (q q' : SequenceEvent) : Ordering :=
  compare q.frame q'.frame

instance : Std.TransCmp compareFrames :=
  transCmp_comap (compare : Int → Int → Ordering) SequenceEvent.frame

/-- The events are sorted by the comparison of their frames. -/
lemma byFrame_eq (es : List SequenceEvent) :
    byFrame es = Sorting.stableSort (fun q q' => compareFrames q q' == .lt) es := by
  refine congrArg (Sorting.stableSort · es) ?_
  funext q q'
  rw [Bool.eq_iff_iff, decide_eq_true_iff, beq_iff_eq, compareFrames, Int.compare_eq_lt]

/-- Two events tie if they are of one frame. -/
lemma compareFrames_eq (q q' : SequenceEvent) :
    (compareFrames q q' == .eq) = decide (q'.frame = q.frame) := by
  rw [Bool.eq_iff_iff, decide_eq_true_iff, beq_iff_eq, compareFrames, Int.compare_eq_eq, eq_comm]

/-- The events of one frame. -/
def ofFrame (n : Int) (es : List SequenceEvent) : List SequenceEvent :=
  es.filter fun q => decide (q.frame = n)

/-- A sort leaves the events of each frame as they stood. -/
lemma ofFrame_byFrame (n : Int) (es : List SequenceEvent) :
    ofFrame n (byFrame es) = ofFrame n es := by
  have hties := Sorting.filter_stableSort compareFrames { call := 0, frame := n } es
  simp only [compareFrames_eq] at hties
  rw [byFrame_eq]
  exact hties

/-- Lists with the same events of each frame are sorted alike. -/
lemma byFrame_congr (h : ∀ n, ofFrame n es = ofFrame n es') : byFrame es = byFrame es' := by
  rw [byFrame_eq, byFrame_eq]
  apply Sorting.stableSort_eq_of_ties compareFrames
  intro q
  simp only [compareFrames_eq]
  exact h q.frame

/-- Behind a sort the events are in the order of their frames. -/
lemma pairwise_byFrame (es : List SequenceEvent) :
    (byFrame es).Pairwise fun q q' => q.frame ≤ q'.frame := by
  have hmarked : Marked { items := es, inOrder := false } := fun hmark => nomatch hmark
  exact hmarked.isOrdered_sortStable

/-! ## Showing events -/

/-- Which events are shown has no part in the events of a frame. -/
lemma ofFrame_map_shownIf (n : Int) (shown : Int → Bool) (es : List SequenceEvent) :
    ofFrame n (es.map (shownIf shown)) = (ofFrame n es).map (shownIf shown) :=
  List.filter_map

/-- It has no part in a sort either. -/
lemma byFrame_map_shownIf (shown : Int → Bool) (es : List SequenceEvent) :
    byFrame (es.map (shownIf shown)) = (byFrame es).map (shownIf shown) := by
  symm
  apply List.map_mergeSort
  intro q _ q' _
  rfl

/-- Of two ways to show events the later one counts. -/
lemma map_shownIf_map_shownIf (shown earlier : Int → Bool) (es : List SequenceEvent) :
    (es.map (shownIf earlier)).map (shownIf shown) = es.map (shownIf shown) := by
  rw [List.map_map]
  rfl

/-- The two logs of a run differ in what is shown, and in nothing else. -/
lemma map_recorded (shown : Int → Bool) (ops : List Operation) :
    (recorded ops).map (shownIf shown) = (appended ops).map (shownIf shown) := by
  induction ops using List.reverseRecOn with
  | nil => rfl
  | append_singleton ops op ih =>
    rw [recorded, appended, List.foldl_concat, List.foldl_concat, ← recorded, ← appended]
    cases op with
    | append q => simp [record, log, ih]
    | sortStable => exact ih
    | setVisibility earlier =>
      rw [record, map_shownIf_map_shownIf]
      exact ih
    | clear => rfl

/-! ## What is kept along a run -/

/-- An index follows a log: its mark can be trusted, and it holds the events of each frame as the
log has them. -/
structure Follows (x : SequenceIndex) (es : List SequenceEvent) : Prop where
  /-- If the events are marked as being in order, they are. -/
  marked : x.Marked
  /-- The events of each frame stand as in the log. -/
  ofFrame : ∀ n, ofFrame n x.items = ofFrame n es

/-- An empty index follows an empty log. -/
lemma follows_nil (h : x.items = []) : x.Follows [] where
  marked := marked_of_isEmpty h
  ofFrame := by
    intro n
    rw [h]

/-- To sort an index that follows a log is to sort the log. -/
lemma Follows.items_sortStable (h : x.Follows es) : x.sortStable.items = byFrame es := by
  rw [h.marked.items_sortStable]
  exact byFrame_congr h.ofFrame

/-- Every operation keeps an index behind its log. -/
lemma Follows.perform (h : x.Follows es) (op : Operation) :
    (x.perform op).Follows (record es op) := by
  cases op with
  | append q =>
    refine ⟨h.marked.append q, ?_⟩
    intro n
    change SequenceIndex.ofFrame n (x.items ++ [q]) = SequenceIndex.ofFrame n (es ++ [q])
    rw [SequenceIndex.ofFrame, SequenceIndex.ofFrame, List.filter_append, List.filter_append]
    exact congrArg (· ++ _) (h.ofFrame n)
  | sortStable =>
    refine ⟨fun _ => h.marked.isOrdered_sortStable, ?_⟩
    intro n
    change SequenceIndex.ofFrame n x.sortStable.items = SequenceIndex.ofFrame n es
    rw [h.items_sortStable, ofFrame_byFrame]
  | setVisibility shown =>
    refine ⟨fun hmark => (h.marked hmark).setVisibility shown, ?_⟩
    intro n
    change SequenceIndex.ofFrame n (x.items.map (shownIf shown)) = _
    rw [record, ofFrame_map_shownIf, ofFrame_map_shownIf, h.ofFrame n]
  | clear => exact follows_nil rfl

/-- Along a run an index follows the record of the run. -/
lemma Follows.run (h : x.Follows es) (ops : List Operation) :
    (x.run ops).Follows (ops.foldl record es) := by
  induction ops generalizing x es with
  | nil => exact h
  | cons op ops ih => exact ih (h.perform op)

/-- What was done with a new index tells what it follows. -/
lemma follows_run (kind : String) (ops : List Operation) :
    (run { analysisType := kind } ops).Follows (recorded ops) :=
  (follows_nil rfl).run ops

/-! ## The main result -/

/-- What the flow diagram of a selection shows: the logged events of the selected calls, by their
frames. -/
structure Shows (x : SequenceIndex) (selected : List Int) (es : List SequenceEvent) : Prop where
  /-- The index holds the logged events, sorted once; only what is shown is set anew. -/
  items : x.items = (byFrame es).map (shownIf selected.contains)
  /-- The shown ones are those of the selected calls. -/
  visible : x.visible = ((byFrame es).filter fun q => selected.contains q.call).map
    fun q => { q with display := true }
  /-- They stand in the order of their frames. -/
  ordered : x.visible.Pairwise fun q q' => q.frame ≤ q'.frame
  /-- Those of one frame stand as they were logged. -/
  ofFrame : ∀ n, ofFrame n x.visible = ((ofFrame n es).filter fun q => selected.contains q.call).map
    fun q => { q with display := true }

/-- The events that a selection shows are those of its calls. -/
lemma filter_display_map_shownIf (selected : List Int) (es : List SequenceEvent) :
    (es.map (shownIf selected.contains)).filter (·.display) =
      (es.filter fun q => selected.contains q.call).map fun q => { q with display := true } := by
  rw [List.filter_map]
  apply List.map_congr_left
  intro q hq
  have hshown : selected.contains q.call = true := (List.mem_filter.mp hq).2
  rw [shownIf, hshown]

/-- An index that was sorted and shows a selection shows what was logged. -/
lemma shows_of_items {selected : List Int}
    (h : x.items = (byFrame es).map (shownIf selected.contains)) : x.Shows selected es := by
  have hvisible : x.visible = ((byFrame es).filter fun q => selected.contains q.call).map
      fun q => { q with display := true } := by
    rw [visible, h, filter_display_map_shownIf]
  refine ⟨h, hvisible, ?_, ?_⟩
  · rw [hvisible, List.pairwise_map]
    exact (pairwise_byFrame es).filter _
  · intro n
    rw [hvisible, SequenceIndex.ofFrame, List.filter_map, ← ofFrame_byFrame n es]
    exact congrArg (List.map _) (List.filter_comm _ _ _)

/-- Whatever was done with a new index, its mark can be trusted, and to sort it is to sort once by
their frames the events that were appended since the last clear, whether the sort is skipped or not
and whatever was sorted before.  Then preparing a selection shows the appended events of the
selected calls, in the order of their frames and those of one frame in the order of the appends, and
changes nothing but what is shown. -/
theorem run_sorted (kind : String) (ops : List Operation) :
    let x := run { analysisType := kind } ops
    (x.inOrder = true → x.IsOrdered) ∧
      x.sortStable.items = byFrame (recorded ops) ∧
      x.sortStable.items = byFrame x.items ∧
      (∀ shown, (recorded ops).map (shownIf shown) = (appended ops).map (shownIf shown)) ∧
      ∀ selected, (x.showOnly selected).Shows selected (appended ops) := by
  intro x
  have hfollows : x.Follows (recorded ops) := follows_run kind ops
  have hsorted := hfollows.items_sortStable
  refine ⟨hfollows.marked, hsorted, hfollows.marked.items_sortStable, ?_, ?_⟩
  · intro shown
    exact map_recorded shown ops
  · intro selected
    apply shows_of_items
    change x.sortStable.items.map (shownIf selected.contains) = _
    rw [hsorted, ← byFrame_map_shownIf, map_recorded, byFrame_map_shownIf]

end VoipCalls.SequenceIndex
