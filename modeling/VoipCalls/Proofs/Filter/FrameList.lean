import VoipCalls.Proofs.Filter.Listing
import VoipCalls.Proofs.Store.History
import VoipCalls.Proofs.Text.Cutting

/-!
# What a filter by frames lists and reports

The filter that lists frames is one text for a selection of calls.  It can be read back without the
language of filters: it is cut at each "or", and behind what every clause begins with stands the
frame in decimal digits.  What joins the clauses begins with a blank, which stands in the clauses
too, but the letter behind it does not, so that the text falls apart where it was joined
(`cutAll_disjunction`) and every frame is read back (`readFrames?_disjunction`).

What is read back are the frames of the events whose call is selected and was created, as they stand
in the index.  A call is created once an event was stored for it, be its record published or not
(`isCreated_run_iff`).  Each selected call that the index names and that was not created is reported
once, with the frame of its first event (`Reports`).  Both are stated in `frameFilter_reading`.
-/

namespace VoipCalls

open DisplayFilter

variable {selected : List Int} {x : SequenceIndex} {store : Option Store}

/-! ## Reading the frames back -/

/-- The frame that a clause asks for. -/
def clauseFrame? (cs : List Char) : Option Int :=
  (Text.after? "frame.number == ".toList cs).bind fun digits => number? (String.ofList digits)

/-- The frames that a text lists, clause by clause.  The empty text lists none. -/
def readFrames? (s : String) : Option (List Int) :=
  if s.isEmpty then some []
  else (Text.cutAll ' ' "or ".toList s.toList).mapM clauseFrame?

/-- The characters of a clause. -/
lemma toList_frameClause (n : Int) :
    (frameClause n).toList = "frame.number == ".toList ++ (toString n).toList := by
  have htext : frameClause n = "frame.number == " ++ toString n := by
    -- the equation of an interpolated text takes long to derive
    delta frameClause
    rfl
  rw [htext, String.toList_append]

/-- No letter stands in the decimal digits of a number. -/
lemma not_mem_toDigits (n : ℕ) : 'o' ∉ Nat.toDigits 10 n := by
  intro ho
  have hdigit := Nat.isDigit_of_mem_toDigits (by decide) (Nat.le_refl 10) ho
  cases hdigit

/-- The first letter of "or" stands in no clause. -/
lemma not_mem_frameClause (n : Int) : 'o' ∉ (frameClause n).toList := by
  have hfield : 'o' ∉ "frame.number == ".toList := by decide
  rw [toList_frameClause, List.mem_append, not_or]
  refine ⟨hfield, ?_⟩
  by_cases hn : 0 ≤ n
  · rw [toList_toString_of_nonneg hn]
    exact not_mem_toDigits _
  · rw [toList_toString_of_neg hn, List.mem_cons, not_or]
    exact ⟨by decide, not_mem_toDigits _⟩

/-- The frame of a clause is read back. -/
lemma clauseFrame?_frameClause (n : Int) : clauseFrame? (frameClause n).toList = some n := by
  have hafter : Text.after? "frame.number == ".toList (frameClause n).toList =
      some (toString n).toList := Text.after?_eq_some_iff.mpr (toList_frameClause n)
  rw [clauseFrame?, hafter, Option.bind_some, String.ofList_toList]
  exact number?_toString n

/-- A list of clauses is cut where it was joined. -/
lemma cutAll_disjunction (n : Int) (ns : List Int) :
    Text.cutAll ' ' "or ".toList (disjunction ((n :: ns).map frameClause)).toList =
      (n :: ns).map fun m => (frameClause m).toList := by
  have hchars : (disjunction ((n :: ns).map frameClause)).toList =
      " or ".toList.intercalate ((n :: ns).map fun m => (frameClause m).toList) := by
    rw [disjunction, String.toList_intercalate, List.map_map]
    rfl
  have hclauses : ∀ k ∈ (n :: ns).map fun m => (frameClause m).toList, 'o' ∉ k := by
    intro k hk
    obtain ⟨m, -, rfl⟩ := List.mem_map.mp hk
    exact not_mem_frameClause m
  rw [hchars]
  exact Text.cutAll_intercalate (by decide) _ hclauses

/-- A list of clauses is not empty. -/
lemma isEmpty_disjunction (n : Int) (ns : List Int) :
    (disjunction ((n :: ns).map frameClause)).isEmpty = false := by
  have hcut := cutAll_disjunction n ns
  rw [Bool.eq_false_iff, Ne, String.isEmpty_iff]
  intro hempty
  rw [hempty, List.map_cons, toList_frameClause] at hcut
  have hnil : Text.cutAll ' ' "or ".toList "".toList = [[]] := by
    rw [Text.cutAll]
    rfl
  rw [hnil] at hcut
  cases hcut

/-- The frames that are listed in a text are read back from it, clause by clause. -/
lemma readFrames?_disjunction (ns : List Int) :
    readFrames? (disjunction (ns.map frameClause)) = some ns := by
  cases ns with
  | nil => rfl
  | cons n ns =>
    have hread : clauseFrame? ∘ (fun m => (frameClause m).toList) = fun m => pure (id m) :=
      funext clauseFrame?_frameClause
    rw [readFrames?, isEmpty_disjunction, if_neg Bool.false_ne_true, cutAll_disjunction,
      List.mapM_map, hread, List.mapM_pure, List.map_id]
    rfl

/-! ## Created calls -/

/-- Whether a call counts as created: the index of the store leads to it, or no store is given. -/
def IsCreated (store : Option Store) (call : Int) : Prop :=
  ∀ s ∈ store, ∃ place, s.places.lookup call = some place

/-- What is checked for an event is whether its call was created. -/
lemma knownIn_iff (store : Option Store) (call : Int) :
    knownIn store call = true ↔ IsCreated store call := by
  cases store with
  | none => simp [knownIn, IsCreated]
  | some s => simp [knownIn, IsCreated, Store.knows, Option.isSome_iff_exists]

instance (store : Option Store) (call : Int) : Decidable (IsCreated store call) :=
  decidable_of_iff _ (knownIn_iff store call)

/-- The calls that a run of a store has created are those that have a working record. -/
lemma isCreated_run_iff_mem (ops : List Store.Operation) (call : Int) :
    IsCreated (some (Store.run {} ops)) call ↔
      ∃ r ∈ (Store.run {} ops).working, r.callId = call := by
  have hrun := Store.Coherent.empty.run ops
  rw [← knownIn_iff, knownIn, hrun.knows_iff]
  constructor
  · rintro ⟨i, rfl, hi⟩
    exact ⟨_, List.getElem_mem hi, hrun.numbered i _ (List.getElem?_eq_getElem hi)⟩
  · rintro ⟨r, hr, rfl⟩
    obtain ⟨i, hi⟩ := List.mem_iff_getElem?.mp hr
    exact ⟨i, hrun.numbered i r hi, (List.getElem?_eq_some_iff.mp hi).1⟩

/-- The calls that a run of a store has created are those for which it has stored an event since the
calls were last forgotten, inside a batch and outside. -/
lemma isCreated_run_iff (ops : List Store.Operation) (call : Int) :
    IsCreated (some (Store.run {} ops)) call ↔
      ∃ i : ℕ, call = i ∧ Store.history i ops ≠ [] := by
  have hrun := Store.Coherent.empty.run ops
  rw [← knownIn_iff, knownIn, hrun.knows_iff]
  refine exists_congr fun i => and_congr_right fun _ => ?_
  have hrecord := (Store.holds_history i ops).record
  rw [← Nat.not_le, ← List.getElem?_eq_none_iff, hrecord, CallRecord.ofEvents_eq_none]

/-! ## Reports -/

/-- What is due for a selection: one report for each call that is selected, stands in the index and
was not created. -/
structure Reports (selected : List Int) (x : SequenceIndex) (store : Option Store)
    (reports : List DanglingEvent) : Prop where
  /-- Each of these calls is reported once, and no other call is. -/
  once : ∀ call, (reports.map (·.call)).count call =
    if call ∈ selected ∧ (∃ q ∈ x.items, q.call = call) ∧ ¬ IsCreated store call then 1 else 0
  /-- A report names the frame of the first event of its call. -/
  first : ∀ d ∈ reports, (x.items.find? fun q => q.call == d.call).map (·.frame) = some d.frame

/-- Each call of some events is reported once, unless it was reported before. -/
lemma count_firstOfEachCall (reported : List Int) (es : List SequenceEvent) (call : Int) :
    ((firstOfEachCall reported es).map (·.call)).count call =
      if call ∉ reported ∧ ∃ q ∈ es, q.call = call then 1 else 0 := by
  induction es generalizing reported with
  | nil => simp [firstOfEachCall]
  | cons e es ih =>
    by_cases he : e.call ∈ reported
    · rw [firstOfEachCall, if_pos (List.contains_iff_mem.mpr he), ih]
      refine if_congr (and_congr_right fun hcall => ?_) rfl rfl
      have hne : e.call ≠ call := fun heq => hcall (heq ▸ he)
      simp [hne]
    · rw [firstOfEachCall, if_neg (fun h => he (List.contains_iff_mem.mp h)), List.map_cons,
        List.count_cons, ih]
      by_cases hcall : e.call = call
      · subst hcall
        simp [he]
      · simp [hcall, Ne.symm hcall]

/-- A report is due for a call that was not reported before. -/
lemma not_mem_of_mem_firstOfEachCall {reported : List Int} {es : List SequenceEvent}
    {d : DanglingEvent} (hd : d ∈ firstOfEachCall reported es) : d.call ∉ reported := by
  intro hreported
  have hcount := count_firstOfEachCall reported es d.call
  rw [if_neg fun h => h.1 hreported, List.count_eq_zero] at hcount
  exact hcount (List.mem_map_of_mem hd)

/-- A report names the frame of the first event of its call. -/
lemma find?_of_mem_firstOfEachCall {reported : List Int} {es : List SequenceEvent}
    {d : DanglingEvent} (hd : d ∈ firstOfEachCall reported es) :
    (es.find? fun q => q.call == d.call).map (·.frame) = some d.frame := by
  induction es generalizing reported with
  | nil => exact absurd hd List.not_mem_nil
  | cons e es ih =>
    -- the event is of another call if its call was reported before
    have hlater : ∀ {reported}, d ∈ firstOfEachCall reported es → e.call ∈ reported →
        ((e :: es).find? fun q => q.call == d.call).map (·.frame) = some d.frame := by
      intro reported hd he
      have hne : e.call ≠ d.call := by
        intro hcall
        exact not_mem_of_mem_firstOfEachCall hd (hcall ▸ he)
      rw [List.find?_cons_of_neg (by simp [hne])]
      exact ih hd
    rw [firstOfEachCall] at hd
    split at hd
    · rename_i he
      exact hlater hd (List.contains_iff_mem.mp he)
    · rcases List.mem_cons.mp hd with rfl | hd
      · simp
      · exact hlater hd List.mem_cons_self

/-- The events that are left out, though their calls are selected. -/
lemma mem_filter_not_knownIn {q : SequenceEvent} :
    q ∈ (selectedEvents selected x).filter (fun q => !knownIn store q.call) ↔
      q ∈ x.items ∧ q.call ∈ selected ∧ ¬ IsCreated store q.call := by
  rw [List.mem_filter, selectedEvents, List.mem_filter, List.contains_iff_mem, and_assoc,
    ← knownIn_iff]
  simp

/-- Each call that is selected, stands in the index and was not created is reported once. -/
lemma count_danglingEvents (selected : List Int) (x : SequenceIndex) (store : Option Store)
    (call : Int) : ((danglingEvents selected x store).map (·.call)).count call =
      if call ∈ selected ∧ (∃ q ∈ x.items, q.call = call) ∧ ¬ IsCreated store call then 1
      else 0 := by
  rw [danglingEvents, count_firstOfEachCall]
  refine if_congr ⟨?_, ?_⟩ rfl rfl
  · rintro ⟨-, q, hq, rfl⟩
    obtain ⟨hin, hselected, hunknown⟩ := mem_filter_not_knownIn.mp hq
    exact ⟨hselected, ⟨q, hin, rfl⟩, hunknown⟩
  · rintro ⟨hselected, ⟨q, hin, rfl⟩, hunknown⟩
    exact ⟨List.not_mem_nil, q, mem_filter_not_knownIn.mpr ⟨hin, hselected, hunknown⟩, rfl⟩

/-- The reports that are due for a selection are made. -/
lemma reports_danglingEvents (selected : List Int) (x : SequenceIndex) (store : Option Store) :
    Reports selected x store (danglingEvents selected x store) := by
  refine ⟨count_danglingEvents selected x store, ?_⟩
  intro d hd
  have hdue : d.call ∈ selected ∧ knownIn store d.call = false := by
    by_contra hnot
    have hcount := count_danglingEvents selected x store d.call
    rw [if_neg, List.count_eq_zero] at hcount
    · exact hcount (List.mem_map_of_mem hd)
    · rintro ⟨hselected, -, hunknown⟩
      rw [← knownIn_iff, Bool.not_eq_true] at hunknown
      exact hnot ⟨hselected, hunknown⟩
  rw [← find?_of_mem_firstOfEachCall hd, selectedEvents, List.find?_filter, List.find?_filter]
  congr 2
  funext q
  -- whether an event is left out is a matter of its call
  by_cases hq : q.call = d.call
  · simp [hq, hdue]
  · simp [hq]

/-! ## The main result -/

/-- From the filter that lists frames one reads back, in the order of the index and with
repetitions, the frames of all events whose call is selected and was created.  Each selected call
that stands in the index and was not created is reported once.  In the store of a run the created
calls are those that have a working record, and those for which an event was stored, be their
records published or not. -/
theorem frameFilter_reading (selected : List Int) (x : SequenceIndex) (store : Option Store) :
    readFrames? (frameFilter selected x store) =
      some ((x.items.filter fun q => q.call ∈ selected ∧ IsCreated store q.call).map (·.frame)) ∧
    Reports selected x store (danglingEvents selected x store) ∧
    (∀ ops call, IsCreated (some (Store.run {} ops)) call ↔
      ∃ r ∈ (Store.run {} ops).working, r.callId = call) ∧
    ∀ ops call, IsCreated (some (Store.run {} ops)) call ↔
      ∃ i : ℕ, call = i ∧ Store.history i ops ≠ [] := by
  refine ⟨?_, reports_danglingEvents selected x store, isCreated_run_iff_mem, isCreated_run_iff⟩
  have hclauses : frameFilter selected x store = disjunction
      (((x.items.filter fun q => q.call ∈ selected ∧ IsCreated store q.call).map (·.frame)).map
        frameClause) := by
    rw [frameFilter, selectedEvents, List.filter_filter, List.map_map]
    refine congrArg (fun qs => disjunction (List.map _ qs)) (List.filter_congr fun q _ => ?_)
    rw [Bool.eq_iff_iff, Bool.and_eq_true, knownIn_iff, List.contains_iff_mem, decide_eq_true_iff,
      and_comm]
  rw [hclauses]
  exact readFrames?_disjunction _

end VoipCalls
