import VoipCalls.Proofs.Session.Runs

/-!
# The fallback of the filter

The filter by frame lists the frames of every call that was created, while the filter by correlation
field, which takes its place where it gets too long, only knows the published records.  The two
speak of the same calls while no batch is open.  Inside a batch a call may not be published yet, or
with other fields than it has by now, and then its clause is missing from the fallback.

`Session.buildFilter_fallback` says exactly when a call that is listed by its frames is found by its
current fields too, and when the fallback is empty.
-/

namespace VoipCalls

/-! ## What the calls contribute to the two filters -/

/-- The events whose frames the filter by frame lists. -/
def listedEvents (selected : List Int) (x : SequenceIndex) (s : Store) : List SequenceEvent :=
  (selectedEvents selected x).filter fun q => s.knows q.call

/-- The clauses of the filter by correlation field, with the calls that they are for. -/
def fieldClauses (selected : List Int) (s : Store) : List (Int × String) :=
  (s.published.filter fun r => selected.contains r.callId).map fun r => (r.callId, fieldClause r)

variable {selected : List Int} {x : SequenceIndex} {s : Store}

/-- The filter by frame lists the frames of these events. -/
lemma frameFilter_eq : frameFilter selected x (some s) =
    disjunction ((listedEvents selected x s).map fun q => frameClause q.frame) := rfl

/-- The filter by correlation field is the disjunction of these clauses. -/
lemma fieldFilter_eq : fieldFilter selected s =
    if (fieldClauses selected s).isEmpty then ""
    else "(" ++ disjunction ((fieldClauses selected s).map (·.2)) ++ ")" := by
  unfold fieldFilter fieldClauses
  simp only [List.isEmpty_map, List.map_map]
  rfl

/-- Only a filter without clauses is empty. -/
lemma fieldFilter_eq_empty : fieldFilter selected s = "" ↔ fieldClauses selected s = [] := by
  rw [fieldFilter_eq]
  split
  · rename_i hempty
    simpa using hempty
  · rename_i hne
    constructor
    · intro h
      have hlength := congrArg String.length h
      simp at hlength
    · exact fun h => absurd (by rw [h]; rfl) hne

/-- An event is listed if its call is selected and was created. -/
lemma mem_listedEvents {q : SequenceEvent} : q ∈ listedEvents selected x s ↔
    q ∈ x.items ∧ q.call ∈ selected ∧ s.knows q.call = true := by
  unfold listedEvents selectedEvents
  rw [List.mem_filter, List.mem_filter, List.contains_iff_mem, and_assoc]

/-- A clause is that of a published record of a selected call. -/
lemma Store.Coherent.mem_fieldClauses (h : s.Coherent) {call : Int} {clause : String} :
    (call, clause) ∈ fieldClauses selected s ↔
      call ∈ selected ∧ ∃ r, s.get? call = some r ∧ fieldClause r = clause := by
  unfold fieldClauses
  simp only [List.mem_map, List.mem_filter, List.contains_iff_mem, Prod.mk.injEq]
  constructor
  · rintro ⟨r, ⟨hr, hsel⟩, rfl, hclause⟩
    obtain ⟨i, hi⟩ := List.mem_iff_getElem?.mp hr
    refine ⟨hsel, r, ?_, hclause⟩
    rw [h.placed i r hi, Store.get?_natCast, hi]
  · rintro ⟨hsel, r, hr, hclause⟩
    obtain ⟨i, rfl, hi, -⟩ := h.exists_of_get? hr
    have hid := h.placed i r hi
    exact ⟨r, ⟨List.mem_of_getElem? hi, by rw [hid]; exact hsel⟩, hid, hclause⟩

/-! ## The two filters in a session -/

namespace Session

variable {s : Session} {log : List Intake.Entry}

/-- The clause of a listed call is in the fallback, as its record stands by now, exactly if the
published record of the call has the same clause. -/
lemma Follows.mem_fieldClauses_iff (h : s.Follows log) {q : SequenceEvent}
    (hq : q ∈ listedEvents selected s.intake.sequence s.intake.store) :
    ∃ r, s.intake.store.find? q.call = some r ∧
      ((q.call, fieldClause r) ∈ fieldClauses selected s.intake.store ↔
        ∃ r', s.intake.store.get? q.call = some r' ∧ fieldClause r' = fieldClause r) := by
  obtain ⟨-, hsel, hknown⟩ := mem_listedEvents.mp hq
  rw [h.intake.indexed.knows_eq] at hknown
  obtain ⟨r, hr⟩ := Option.isSome_iff_exists.mp hknown
  refine ⟨r, hr, ?_⟩
  rw [h.coherent.mem_fieldClauses]
  exact ⟨And.right, fun hclause => ⟨hsel, hclause⟩⟩

/-- Each published record of a selected call stands for a listed event. -/
lemma Follows.exists_listed (h : s.Follows log) {call : Int} {r : CallRecord}
    (hsel : call ∈ selected) (hr : s.intake.store.get? call = some r) :
    ∃ q ∈ listedEvents selected s.intake.sequence s.intake.store, q.call = call := by
  obtain ⟨i, rfl, -, hi⟩ := h.coherent.exists_of_get? hr
  obtain ⟨q, hq, hcall⟩ := h.intake.exists_item hi
  refine ⟨q, mem_listedEvents.mpr ⟨hq, ?_, h.intake.knows_of_mem_items hq⟩, hcall⟩
  rw [hcall]
  exact hsel

/-- The fallback is empty exactly if no listed call is published. -/
lemma Follows.fieldClauses_eq_nil (h : s.Follows log) :
    fieldClauses selected s.intake.store = [] ↔
      ∀ q ∈ listedEvents selected s.intake.sequence s.intake.store,
        s.intake.store.get? q.call = none := by
  rw [List.eq_nil_iff_forall_not_mem]
  constructor
  · intro hnone q hq
    rw [Option.eq_none_iff_forall_ne_some]
    intro r hr
    exact hnone (q.call, fieldClause r)
      (h.coherent.mem_fieldClauses.mpr ⟨(mem_listedEvents.mp hq).2.1, r, hr, rfl⟩)
  · rintro hnone ⟨call, clause⟩ hin
    obtain ⟨hsel, r, hr, -⟩ := h.coherent.mem_fieldClauses.mp hin
    obtain ⟨q, hq, hcall⟩ := h.exists_listed hsel hr
    have hq' := hnone q hq
    rw [hcall, hr] at hq'
    cases hq'

/-- While no batch is open, readers find the working records. -/
lemma Follows.get?_eq_find? (h : s.Follows log) (hdepth : s.intake.store.depth = 0) {call : Int}
    {r : CallRecord} (hr : s.intake.store.find? call = some r) :
    s.intake.store.get? call = some r := by
  obtain ⟨i, rfl, hi⟩ := h.intake.sound.exists_of_find? hr
  rw [Store.get?_natCast, (h.coherent.settled hdepth).1, hi]

/-- Wherever a session takes the fallback, it is made of the clauses of the published records.  The
clause of a call that is listed by its frames is among them, as its record stands by now, exactly if
the published record of the call has the same clause, and the fallback is empty exactly if no listed
call is published.  While no batch is open, every listed call has its clause and the fallback is not
empty. -/
theorem buildFilter_fallback (hs : s.Reachable) (selected : List Int) {maxLength : Int}
    (hpos : 0 < maxLength)
    (hlong : maxLength <
      (frameFilter selected s.intake.sequence (some s.intake.store)).length) :
    buildFilter selected s.intake.sequence s.intake.store maxLength =
      (if (fieldClauses selected s.intake.store).isEmpty then ""
      else "(" ++ disjunction ((fieldClauses selected s.intake.store).map (·.2)) ++ ")") ∧
    (∀ q ∈ listedEvents selected s.intake.sequence s.intake.store,
      ∃ r, s.intake.store.find? q.call = some r ∧
        ((q.call, fieldClause r) ∈ fieldClauses selected s.intake.store ↔
          ∃ r', s.intake.store.get? q.call = some r' ∧ fieldClause r' = fieldClause r) ∧
        (s.intake.store.depth = 0 →
          (q.call, fieldClause r) ∈ fieldClauses selected s.intake.store)) ∧
    (buildFilter selected s.intake.sequence s.intake.store maxLength = "" ↔
      ∀ q ∈ listedEvents selected s.intake.sequence s.intake.store,
        s.intake.store.get? q.call = none) ∧
    (s.intake.store.depth = 0 →
      buildFilter selected s.intake.sequence s.intake.store maxLength ≠ "") := by
  obtain ⟨log, h⟩ := hs.exists_follows
  have hfallback : buildFilter selected s.intake.sequence s.intake.store maxLength =
      fieldFilter selected s.intake.store := if_pos ⟨hpos, hlong⟩
  rw [hfallback]
  refine ⟨fieldFilter_eq, fun q hq => ?_, fieldFilter_eq_empty.trans h.fieldClauses_eq_nil, ?_⟩
  · obtain ⟨r, hr, hiff⟩ := h.mem_fieldClauses_iff hq
    exact ⟨r, hr, hiff, fun hdepth => hiff.mpr ⟨r, h.get?_eq_find? hdepth hr, rfl⟩⟩
  · intro hdepth hempty
    -- a filter by frame that is too long lists an event, and its call is published
    have hlisted : listedEvents selected s.intake.sequence s.intake.store ≠ [] := by
      intro hnil
      rw [frameFilter_eq, hnil] at hlong
      have hzero : ((disjunction []).length : Int) = 0 := rfl
      rw [List.map_nil, hzero] at hlong
      omega
    obtain ⟨q, hq⟩ := List.exists_mem_of_ne_nil _ hlisted
    obtain ⟨r, hr, -⟩ := h.mem_fieldClauses_iff hq
    have hnone := h.fieldClauses_eq_nil.mp (fieldFilter_eq_empty.mp hempty) q hq
    rw [h.get?_eq_find? hdepth hr] at hnone
    cases hnone

/-- A dialog is opened in a batch. -/
def dialogInBatch : List Operation :=
  [.openCapture, .enter,
    .packet
      { protocol := .sip, frame := some 1, time := some (.whole 0), key := some (.text "a"),
        method := some "INVITE", payload := some (.sip { callIdentifier := some "a" }) }]

/-- A session in which the batch of the dialog is open. -/
def openBatch : Session :=
  (Session.new {} none).run dialogInBatch

/-- A session in which the batch of the dialog was left. -/
def leftBatch : Session :=
  (Session.new {} none).run (dialogInBatch ++ [.leave])

/-- Inside the batch the dialog is listed by its frame and has a clause of its own, but the fallback
is empty. -/
theorem buildFilter_openBatch :
    openBatch.Reachable ∧
    frameFilter [0] openBatch.intake.sequence (some openBatch.intake.store) =
      "frame.number == 1" ∧
    (openBatch.intake.store.find? 0).map fieldClause = some "(sip.Call-ID == \"a\")" ∧
    buildFilter [0] openBatch.intake.sequence openBatch.intake.store 1 = "" :=
  ⟨⟨{}, none, dialogInBatch, rfl⟩, by decide, by decide, by decide⟩

/-- Once the batch is left, the clause of the dialog is all that the fallback holds. -/
theorem buildFilter_leftBatch :
    buildFilter [0] leftBatch.intake.sequence leftBatch.intake.store 1 ≠ "" ∧
    (∀ q ∈ listedEvents [0] leftBatch.intake.sequence leftBatch.intake.store,
      ∃ r, leftBatch.intake.store.find? q.call = some r ∧
        (q.call, fieldClause r) ∈ fieldClauses [0] leftBatch.intake.store) ∧
    fieldClauses [0] leftBatch.intake.store = [(0, "(sip.Call-ID == \"a\")")] := by
  have hreachable : leftBatch.Reachable := ⟨{}, none, dialogInBatch ++ [.leave], rfl⟩
  have hdepth : leftBatch.intake.store.depth = 0 := by decide
  obtain ⟨-, hclauses, -, hne⟩ :=
    buildFilter_fallback hreachable [0] (show (0 : Int) < 1 by decide) (by decide)
  refine ⟨hne hdepth, fun q hq => ?_, by decide⟩
  obtain ⟨r, hr, -, hclause⟩ := hclauses q hq
  exact ⟨r, hr, hclause hdepth⟩

end Session

end VoipCalls
