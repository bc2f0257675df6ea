import VoipCalls.Proofs.Table.Refreshing

/-!
# Tables whose sorting is suspended

The sorting of a table can be suspended, and a suspension may stand inside another one; every
refresh is one of its own.  A table in use keeps, for each suspension that is open, whether sorting
was on before it (`Table.Scoped`).

While the outermost suspension is open, no row moves: new rows are appended behind the others in the
order of the store, and a sort that is asked for is only noted (`Table.Defers`).  At its end the
rows are sorted once, by what was noted last and from where they stand (`Table.SortsOnce`).  Both
are stated in `Table.run_suspended`, over all runs of a new table.

What carries the induction is that sorting is on exactly if no suspension is open
(`Scoped.Nested`).  Inside the outermost one all inner ones restore that it is off, so that only the
last end sorts.
-/

namespace VoipCalls

/-! ## Stable sorts of rows -/

/-- Rows that are the stable sort of some rows by a column, descending or not. -/
structure IsStableSort (c : Column) (descending : Bool) (rows sorted : List Row) : Prop where
  /-- They are the same rows. -/
  perm : sorted.Perm rows
  /-- They stand in the order of the column, and those that tie stand as they stood. -/
  pairwise : sorted.Pairwise fun r q =>
    Row.order c r q = (if descending then .gt else .lt) ∨
      (Row.order c r q = .eq ∧ [r, q].Sublist rows)

/-- Rows that can be compared are sorted stably. -/
lemma isStableSort_sortRows {rows : List Row} {c : Column} (descending : Bool)
    (h : ∀ r ∈ rows, r.record.isComparable c = true) :
    IsStableSort c descending rows (sortRows rows c descending) := by
  have hbefore : rows.Pairwise fun r q => [r, q].Sublist rows :=
    List.pairwise_iff_forall_sublist.mpr fun hrq => hrq
  have hsorted := Sorting.pairwise_stableSort (Row.rankOrderIn c descending) hbefore
  rw [← sortRows_eq h] at hsorted
  refine ⟨sortRows_perm rows c descending, hsorted.imp_of_mem ?_⟩
  intro r q hr hq hrq
  rw [Row.rankOrderIn_eq descending (h r (mem_sortRows.mp hr)) (h q (mem_sortRows.mp hq))] at hrq
  cases descending <;> cases horder : Row.order c r q <;> simp_all

namespace Table

variable {t : Table} {s : Store} {n m : ℕ}

/-! ## Tables in use -/

/-- A step in the use of a table: an operation, or a suspension of sorting begins or ends. -/
inductive Step where
  | operate (op : Operation)
  | suspend
  | resume
deriving DecidableEq

/-- A table in use.  For each suspension that is open, the innermost first, it is kept whether
sorting was on before. -/
structure Scoped where
  table : Table
  saved : List Bool := []

/-- The table in use after a step.  Without an open suspension there is none to end. -/
def Scoped.step (x : Scoped) : Step → Scoped
  | .operate op => { x with table := x.table.perform op }
  | .suspend => ⟨x.table.suspend, x.table.sorting :: x.saved⟩
  | .resume =>
    match x.saved with
    | [] => x
    | sorting :: saved => ⟨x.table.resume sorting, saved⟩

/-- The table in use after some steps. -/
def Scoped.run (x : Scoped) (steps : List Step) : Scoped :=
  steps.foldl step x

/-- A new table in use. -/
def Scoped.new (c : Column) (descending : Bool) (precision : ℕ) : Scoped :=
  ⟨Table.new c descending precision, []⟩

/-- The number of suspensions that are open after some steps if `n` are open before; nothing if the
steps end one that was not begun. -/
def openAfter : ℕ → List Step → Option ℕ
  | n, [] => some n
  | n, .operate _ :: steps => openAfter n steps
  | n, .suspend :: steps => openAfter (n + 1) steps
  | 0, .resume :: _ => none
  | n + 1, .resume :: steps => openAfter n steps

/-- The operations among some steps. -/
def operations (steps : List Step) : List Operation :=
  steps.filterMap fun
    | .operate op => some op
    | .suspend | .resume => none

/-- The rows after an operation: those that it draws, if it draws any. -/
def Operation.rowsAfter (precision : ℕ) (rows : List Row) : Operation → List Row
  | .refresh s => drawRows precision s.published
  | .sortBy .. => rows
  | .clear => []

/-- The rows after some operations, as they were last drawn. -/
def lastDrawn (precision : ℕ) (rows : List Row) (ops : List Operation) : List Row :=
  ops.foldl (Operation.rowsAfter precision) rows

/-- Whether a step takes no row from a table: it is no refresh from fewer records than there are
rows, and it does not clear the table. -/
def Step.Extends (t : Table) : Step → Prop
  | .operate (.refresh s) => t.rows.length ≤ s.published.length
  | .operate .clear => False
  | .operate (.sortBy ..) | .suspend | .resume => True

/-- Whether none of some steps takes a row from the table. -/
def Scoped.Grows (x : Scoped) : List Step → Prop
  | [] => True
  | st :: steps => st.Extends x.table ∧ (x.step st).Grows steps

/-! ## Sorting is on exactly if no suspension is open -/

/-- A table in use with `n` open suspensions. -/
structure Scoped.Nested (x : Scoped) (n : ℕ) : Prop where
  /-- The order names every position once. -/
  placed : x.table.Placed
  /-- Sorting was on before the outermost suspension, and it is off inside each of them. -/
  flags : x.table.sorting :: x.saved = List.replicate n false ++ [true]

lemma openAfter_cons (n : ℕ) (st : Step) (steps : List Step) :
    openAfter n (st :: steps) = (openAfter n [st]).bind fun k => openAfter k steps := by
  cases st <;> cases n <;> rfl

/-- Suspensions that are open anyway make no difference. -/
lemma openAfter_succ {steps : List Step} (h : openAfter n steps = some m) :
    openAfter (n + 1) steps = some (m + 1) := by
  induction steps generalizing n with
  | nil =>
    cases h
    rfl
  | cons st steps ih =>
    cases st with
    | operate op => exact ih (n := n) h
    | suspend => exact ih (n := n + 1) h
    | resume =>
      cases n with
      | zero => cases h
      | succ n => exact ih (n := n) h

/-- No operation turns sorting on or off. -/
lemma sorting_perform (t : Table) (op : Operation) : (t.perform op).sorting = t.sorting := by
  cases op with
  | refresh s => exact sorting_refresh t s
  | sortBy c descending => exact sorting_sortBy t c descending
  | clear => rfl

/-- Every operation keeps a table placed. -/
lemma Placed.perform (h : t.Placed) (op : Operation) : (t.perform op).Placed := by
  cases op with
  | refresh s => exact h.refresh s
  | sortBy c descending => exact h.sortBy c descending
  | clear => exact placed_of_isEmpty rfl rfl

namespace Scoped

variable {x : Scoped}

/-- A new table is in use without a suspension. -/
lemma nested_new (c : Column) (descending : Bool) (precision : ℕ) :
    (new c descending precision).Nested 0 :=
  ⟨placed_of_isEmpty rfl rfl, rfl⟩

/-- Without an open suspension sorting is on. -/
lemma Nested.sorting_eq_true (h : x.Nested 0) : x.table.sorting = true :=
  (List.cons.inj h.flags).1

/-- In a suspension sorting is off. -/
lemma Nested.sorting_eq_false (h : x.Nested (n + 1)) : x.table.sorting = false :=
  (List.cons.inj h.flags).1

/-- What is kept of the innermost suspension is whether it stands inside another one. -/
lemma Nested.saved_eq (h : x.Nested (n + 1)) : x.saved = List.replicate n false ++ [true] :=
  (List.cons.inj h.flags).2

/-- Every step keeps the count of the suspensions. -/
lemma Nested.step (h : x.Nested n) (st : Step) (hopen : openAfter n [st] = some m) :
    (x.step st).Nested m := by
  cases st with
  | operate op =>
    cases hopen
    refine ⟨h.placed.perform op, ?_⟩
    rw [← h.flags, ← sorting_perform x.table op]
    rfl
  | suspend =>
    cases hopen
    refine ⟨⟨h.placed.order, h.placed.position⟩, ?_⟩
    rw [List.replicate_succ, List.cons_append, ← h.flags]
    rfl
  | resume =>
    cases n with
    | zero => cases hopen
    | succ n =>
      cases hopen
      have hsaved := h.saved_eq
      unfold Scoped.step
      cases hx : x.saved with
      | nil =>
        rw [hx] at hsaved
        simp at hsaved
      | cons sorting saved =>
        refine ⟨Placed.applySort ⟨h.placed.order, h.placed.position⟩, ?_⟩
        have hsorting : (x.table.resume sorting).sorting = sorting := sorting_applySort _
        rw [hsorting, ← hx, hsaved]

/-- Every run keeps the count of the suspensions. -/
lemma Nested.run {steps : List Step} (h : x.Nested n) (hopen : openAfter n steps = some m) :
    (x.run steps).Nested m := by
  induction steps generalizing x n with
  | nil =>
    cases hopen
    exact h
  | cons st steps ih =>
    rw [openAfter_cons] at hopen
    obtain ⟨k, hk, hrest⟩ := Option.bind_eq_some_iff.mp hopen
    exact ih (h.step st hk) hrest

end Scoped

/-! ## Operations on a suspended table -/

/-- A suspended table is not sorted. -/
lemma applySort_of_suspended (h : t.sorting = false) : t.applySort = t := by
  unfold applySort
  rw [h]
  rfl

/-- To suspend a suspended table changes nothing. -/
lemma suspend_eq_self (h : t.sorting = false) : t.suspend = t := by
  unfold suspend
  rw [← h]

/-- To end an inner suspension changes nothing. -/
lemma resume_eq_self (h : t.sorting = false) : t.resume false = t := by
  unfold resume
  rw [← h]
  exact applySort_of_suspended h

/-- A refresh of a suspended table appends the new rows, in the order of the store. -/
lemma order_refresh_of_suspended (h : t.sorting = false)
    (hlength : t.rows.length ≤ s.published.length) :
    (t.refresh s).order =
      t.order ++ List.range' t.rows.length (s.published.length - t.rows.length) := by
  have hoff : (t.drawnFrom s).sorting = false := h
  rw [refresh_eq, applySort_of_suspended hoff]
  change (t.drawnFrom s).order = _
  unfold drawnFrom
  rw [if_neg (Nat.not_lt.mpr hlength)]
  rfl

/-- The column and the direction after one more operation. -/
lemma lastSort_concat (active : Column × Bool) (ops : List Operation) (op : Operation) :
    lastSort active (ops ++ [op]) = op.sortAfter (lastSort active ops) :=
  List.foldl_append

/-- The rows after one more operation. -/
lemma lastDrawn_concat (precision : ℕ) (rows : List Row) (ops : List Operation) (op : Operation) :
    lastDrawn precision rows (ops ++ [op]) =
      op.rowsAfter precision (lastDrawn precision rows ops) :=
  List.foldl_append

/-- Places that follow one another, in two parts. -/
lemma range'_append_range' {a b c : ℕ} (hab : a ≤ b) (hbc : b ≤ c) :
    List.range' a (b - a) ++ List.range' b (c - b) = List.range' a (c - a) := by
  obtain ⟨k, rfl⟩ := Nat.exists_eq_add_of_le hab
  obtain ⟨l, rfl⟩ := Nat.exists_eq_add_of_le hbc
  rw [Nat.add_sub_cancel_left, Nat.add_sub_cancel_left, Nat.add_assoc, Nat.add_sub_cancel_left]
  exact List.range'_append_1

/-- What holds of a table in use after some operations inside the outermost suspension, `n` further
ones being open; `t` is the table at its beginning. -/
structure Deferred (t : Table) (x : Scoped) (n : ℕ) (ops : List Operation) : Prop
    extends x.Nested (n + 1) where
  /-- The column and the direction are those that were last asked for. -/
  active : (x.table.sortColumn, x.table.descending) = lastSort (t.sortColumn, t.descending) ops
  /-- The precision is the one from the beginning. -/
  precision : x.table.precision = t.precision
  /-- The rows are those that were last drawn. -/
  rows : x.table.rows = lastDrawn t.precision t.rows ops
  /-- No row is gone. -/
  length : t.rows.length ≤ x.table.rows.length
  /-- The new rows stand behind the others. -/
  order : x.table.order =
    t.order ++ List.range' t.rows.length (x.table.rows.length - t.rows.length)

namespace Deferred

variable {x : Scoped} {ops : List Operation}

/-- A refresh inside the suspension appends the new rows and is not sorted. -/
lemma refresh (h : Deferred t x n ops) (hlength : x.table.rows.length ≤ s.published.length) :
    Deferred t (x.step (.operate (.refresh s))) n (ops ++ [.refresh s]) := by
  have hrows : (x.table.refresh s).rows.length = s.published.length := by
    rw [rows_refresh, length_drawRows]
  refine ⟨h.step (.operate (.refresh s)) rfl, ?_, ?_, ?_, ?_, ?_⟩
  · rw [lastSort_concat, ← h.active]
    exact Prod.ext (sortColumn_refresh _ s) (descending_refresh _ s)
  · exact (precision_refresh _ s).trans h.precision
  · rw [lastDrawn_concat, ← h.precision]
    exact rows_refresh _ s
  · change t.rows.length ≤ (x.table.refresh s).rows.length
    rw [hrows]
    exact Nat.le_trans h.length hlength
  · change (x.table.refresh s).order = t.order ++ List.range' t.rows.length
      ((x.table.refresh s).rows.length - t.rows.length)
    rw [order_refresh_of_suspended h.sorting_eq_false hlength, h.order, List.append_assoc,
      range'_append_range' h.length hlength, hrows]

/-- A sort that is asked for inside the suspension is noted. -/
lemma sortBy (h : Deferred t x n ops) (c : Column) (descending : Bool) :
    Deferred t (x.step (.operate (.sortBy c descending))) n (ops ++ [.sortBy c descending]) := by
  have hnoted : x.table.sortBy c descending = { x.table with sortColumn := c, descending } :=
    applySort_of_suspended h.sorting_eq_false
  have htable : (x.step (.operate (.sortBy c descending))).table =
      { x.table with sortColumn := c, descending } := hnoted
  refine ⟨h.step (.operate (.sortBy c descending)) rfl, ?_, ?_, ?_, ?_, ?_⟩ <;> rw [htable]
  · rw [lastSort_concat]
    rfl
  · exact h.precision
  · rw [lastDrawn_concat, ← h.rows]
    rfl
  · exact h.length
  · exact h.order

/-- Beginning or ending an inner suspension changes nothing but the count. -/
lemma of_table_eq {y : Scoped} (h : Deferred t x n ops) (hy : y.Nested (m + 1))
    (htable : y.table = x.table) : Deferred t y m ops := by
  refine ⟨hy, ?_, ?_, ?_, ?_, ?_⟩ <;> rw [htable]
  · exact h.active
  · exact h.precision
  · exact h.rows
  · exact h.length
  · exact h.order

/-- Every step inside the outermost suspension is deferred. -/
lemma step (h : Deferred t x n ops) {st : Step} (hextends : st.Extends x.table)
    (hopen : openAfter n [st] = some m) : Deferred t (x.step st) m (ops ++ operations [st]) := by
  have hnested := h.toNested.step st (openAfter_succ hopen)
  have hoff : x.table.sorting = false := h.sorting_eq_false
  cases st with
  | operate op =>
    cases hopen
    cases op with
    | refresh s => exact h.refresh hextends
    | sortBy c descending => exact h.sortBy c descending
    | clear => exact absurd hextends id
  | suspend =>
    have hnone : operations [.suspend] = [] := rfl
    rw [hnone, List.append_nil]
    exact h.of_table_eq hnested (suspend_eq_self hoff)
  | resume =>
    have hnone : operations [.resume] = [] := rfl
    rw [hnone, List.append_nil]
    refine h.of_table_eq hnested ?_
    cases n with
    | zero => cases hopen
    | succ n =>
      -- what is restored is that sorting was off, for the outermost suspension is still open
      have hsaved : x.saved = false :: (List.replicate n false ++ [true]) := h.saved_eq
      unfold Scoped.step
      rw [hsaved]
      exact resume_eq_self hoff

/-- Every run inside the outermost suspension is deferred. -/
lemma run {steps : List Step} (h : Deferred t x n ops) (hgrows : x.Grows steps)
    (hopen : openAfter n steps = some m) :
    Deferred t (x.run steps) m (ops ++ operations steps) := by
  induction steps generalizing x n ops with
  | nil =>
    cases hopen
    have hnone : operations [] = [] := rfl
    rw [hnone, List.append_nil]
    exact h
  | cons st steps ih =>
    rw [openAfter_cons] at hopen
    obtain ⟨k, hk, hrest⟩ := Option.bind_eq_some_iff.mp hopen
    have hsplit : operations (st :: steps) = operations [st] ++ operations steps :=
      List.filterMap_append (l := [st])
    rw [hsplit, ← List.append_assoc]
    exact ih (h.step hgrows.1 hk) hgrows.2 hrest

end Deferred

/-! ## What is seen of a suspension -/

/-- What a table shows after some operations inside a suspension; `t` is the table at its
beginning. -/
structure Defers (t u : Table) (ops : List Operation) : Prop where
  /-- Sorting was on before. -/
  before : t.sorting = true
  /-- It is off now. -/
  inside : u.sorting = false
  /-- The rows are presented as they were, and behind them the new ones, in the order of the
  store. -/
  order : u.presented.map (·.position) =
    t.presented.map (·.position) ++
      List.range' t.rows.length (u.rows.length - t.rows.length)
  /-- The rows are those that were last drawn. -/
  rows : u.rows = lastDrawn t.precision t.rows ops
  /-- Each of them is presented as it was drawn. -/
  drawn : ∀ r ∈ u.presented, u.rows[r.position]? = some r
  /-- The column and the direction are those that were last asked for, or else those from before. -/
  active : (u.sortColumn, u.descending) = lastSort (t.sortColumn, t.descending) ops

/-- What the end of a suspension makes of a table, by a column and a direction. -/
structure SortsOnce (u v : Table) (active : Column × Bool) : Prop where
  /-- Sorting is on again. -/
  sorting : v.sorting = true
  /-- The rows are not drawn again. -/
  rows : v.rows = u.rows
  /-- They are sorted once, as they were presented. -/
  presented : v.presented = sortRows u.presented active.1 active.2
  /-- The sort is stable, if the times by which it sorts are numbers. -/
  stable : (∀ r ∈ u.presented, r.record.isComparable active.1 = true) →
    IsStableSort active.1 active.2 u.presented v.presented

/-- At the beginning of a suspension nothing is deferred yet. -/
lemma deferred_suspend {x : Scoped} (h : x.Nested 0) : Deferred x.table (x.step .suspend) 0 [] := by
  refine ⟨h.step .suspend rfl, ?_, ?_, ?_, ?_, ?_⟩
  · rfl
  · rfl
  · rfl
  · exact Nat.le_refl _
  · change x.table.order =
      x.table.order ++ List.range' _ (x.table.rows.length - x.table.rows.length)
    rw [Nat.sub_self]
    exact (List.append_nil _).symm

/-- What is deferred is what a table shows inside a suspension. -/
lemma Deferred.defers {x : Scoped} {ops : List Operation} (h : Deferred t x n ops)
    (hplaced : t.Placed) (hsorting : t.sorting = true) : Defers t x.table ops where
  before := hsorting
  inside := h.sorting_eq_false
  order := by
    rw [h.placed.map_position_presented, hplaced.map_position_presented]
    exact h.order
  rows := h.rows
  drawn r hr := h.placed.getElem?_position (h.placed.presented_perm.subset hr)
  active := h.active

/-- The end of the outermost suspension sorts what was presented. -/
lemma Deferred.sortsOnce {x : Scoped} {ops : List Operation} (h : Deferred t x 0 ops) :
    SortsOnce x.table (x.step .resume).table (lastSort (t.sortColumn, t.descending) ops) := by
  have hsaved : x.saved = [true] := h.saved_eq
  have hresumed : (x.step .resume).table = { x.table with sorting := true }.applySort := by
    unfold Scoped.step
    rw [hsaved]
    rfl
  have hplaced : ({ x.table with sorting := true } : Table).Placed :=
    ⟨h.placed.order, h.placed.position⟩
  have hpresented : (x.step .resume).table.presented =
      sortRows x.table.presented x.table.sortColumn x.table.descending := by
    rw [hresumed]
    exact hplaced.presented_applySort rfl
  rw [← h.active]
  refine ⟨?_, ?_, hpresented, ?_⟩
  · rw [hresumed]
    exact sorting_applySort _
  · rw [hresumed]
    exact rows_applySort _
  · intro hcomparable
    rw [hpresented]
    exact isStableSort_sortRows _ hcomparable

/-- In every run of a new table, while the outermost suspension is open, whatever further ones are
begun and ended inside it, the rows are presented as they were before it, with the new ones behind
them, and what is asked for is noted.  At its end the rows are sorted once, by what was asked for
last. -/
theorem run_suspended (c : Column) (descending : Bool) (precision : ℕ) (before : List Step)
    {body : List Step} (hbefore : openAfter 0 before = some 0)
    (hbody : openAfter 0 body = some n)
    (hgrows : ((Scoped.new c descending precision).run (before ++ [.suspend])).Grows body) :
    Defers ((Scoped.new c descending precision).run before).table
      ((Scoped.new c descending precision).run (before ++ .suspend :: body)).table
      (operations body) ∧
    (n = 0 →
      SortsOnce ((Scoped.new c descending precision).run (before ++ .suspend :: body)).table
        ((Scoped.new c descending precision).run (before ++ .suspend :: body ++ [.resume])).table
        (lastSort
          (((Scoped.new c descending precision).run before).table.sortColumn,
            ((Scoped.new c descending precision).run before).table.descending)
          (operations body))) := by
  have hentry := (Scoped.nested_new c descending precision).run hbefore
  have hbegun : (Scoped.new c descending precision).run (before ++ [.suspend]) =
      ((Scoped.new c descending precision).run before).step .suspend := List.foldl_append
  have hinside : (Scoped.new c descending precision).run (before ++ .suspend :: body) =
      (((Scoped.new c descending precision).run before).step .suspend).run body :=
    List.foldl_append
  have hended : (Scoped.new c descending precision).run (before ++ .suspend :: body ++ [.resume]) =
      ((Scoped.new c descending precision).run (before ++ .suspend :: body)).step .resume :=
    List.foldl_append
  rw [hbegun] at hgrows
  have hdeferred := (deferred_suspend hentry).run hgrows hbody
  rw [List.nil_append, ← hinside] at hdeferred
  refine ⟨hdeferred.defers hentry.placed hentry.sorting_eq_true, ?_⟩
  rintro rfl
  rw [hended]
  exact hdeferred.sortsOnce

/-- A table that is sorted by packets, most of them last. -/
def byPackets : Scoped :=
  Scoped.new .packets false defaultPrecision

/-- The table shows two calls. -/
def twoShown : List Step :=
  [.operate (.refresh (storeOf twoCalls))]

/-- It is asked for the packets in the other direction, refreshed from four calls in a suspension,
and then asked for the states. -/
def deferredSorts : List Step :=
  [.operate (.sortBy .packets true), .suspend, .operate (.refresh (storeOf fourCalls)), .resume,
    .operate (.sortBy .state false)]

/-- Inside a suspension the new rows stay behind the others, although sorts were asked for and a
further suspension has ended, and the end sorts all rows by their states. -/
theorem run_suspended_fourCalls :
    openAfter 0 twoShown = some 0 ∧ openAfter 0 deferredSorts = some 0 ∧
    (byPackets.run (twoShown ++ .suspend :: deferredSorts)).table.presented.map (·.position) =
      (byPackets.run twoShown).table.presented.map (·.position) ++ [2, 3] ∧
    (byPackets.run (twoShown ++ .suspend :: deferredSorts)).table.rows = fourCalls ∧
    (byPackets.run (twoShown ++ .suspend :: deferredSorts ++ [.resume])).table.presented =
      sortRows (byPackets.run (twoShown ++ .suspend :: deferredSorts)).table.presented
        .state false := by
  have hgrows : (byPackets.run (twoShown ++ [.suspend])).Grows deferredSorts :=
    ⟨trivial, trivial, Nat.le_of_ble_eq_true rfl, trivial, trivial, trivial⟩
  obtain ⟨hdefers, hsorts⟩ :=
    run_suspended .packets false defaultPrecision twoShown rfl rfl hgrows
  have hshown : (byPackets.run twoShown).table.rows.length = 2 := rfl
  have hrows : (byPackets.run (twoShown ++ .suspend :: deferredSorts)).table.rows = fourCalls :=
    hdefers.rows
  have horder := hdefers.order
  rw [← byPackets, hrows, hshown] at horder
  exact ⟨rfl, rfl, horder, hrows, (hsorts rfl).presented⟩

end Table

end VoipCalls
