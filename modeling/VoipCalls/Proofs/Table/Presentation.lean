import VoipCalls.Proofs.Call.Comparison
import VoipCalls.Proofs.Table.Rows

/-!
# The order of presentation

Every refresh sorts the rows by the active column, and it sorts them from where they stand.  The
sort is stable, so that rows which tie are left as an earlier sort has placed them, and the table
remembers orders of cells that it has drawn over since.

`SortPass.orderAfter` is the order that comes of several sorts: the latest sort which tells two rows
apart decides, and if none does, the rows stand in the order of the store.  `Table.Arranged` says
that a table is presented in this order, and each refresh keeps it, with one sort more
(`Arranged.refresh`).
-/

namespace VoipCalls

/-! ## The order after several sorts -/

/-- A sort of the table: the column and the direction, and the records that were drawn. -/
structure SortPass where
  column : Column
  descending : Bool
  records : List CallRecord

namespace SortPass

variable {p : SortPass} {ps : List SortPass} {i j : ℕ}

/-- What a sort says about two positions.  It says nothing about rows that came later. -/
def order (p : SortPass) (i j : ℕ) : Ordering :=
  match p.records[i]?, p.records[j]? with
  | some a, some b => CallRecord.orderIn p.column p.descending a b
  | _, _ => .eq

/-- The order of two positions after several sorts, the latest one first. -/
def orderAfter : List SortPass → ℕ → ℕ → Ordering
  | [], i, j => compare i j
  | p :: ps, i, j => (p.order i j).then (orderAfter ps i j)

lemma order_of_getElem? {a b : CallRecord} (hi : p.records[i]? = some a)
    (hj : p.records[j]? = some b) :
    p.order i j = CallRecord.orderIn p.column p.descending a b := by
  rw [order, hi, hj]

/-- A sort says nothing about two positions, or it compares the records there. -/
lemma order_cases (p : SortPass) (i j : ℕ) : p.order i j = .eq ∨
    ∃ a b, p.records[i]? = some a ∧ p.records[j]? = some b ∧
      p.order i j = CallRecord.orderIn p.column p.descending a b := by
  unfold order
  split
  · rename_i a b hi hj
    exact Or.inr ⟨a, b, hi, hj, rfl⟩
  · exact Or.inl rfl

/-- A sort says nothing about a row that came later. -/
lemma order_of_length_le (h : p.records.length ≤ j) : p.order i j = .eq := by
  have hnone : p.records[j]? = none := List.getElem?_eq_none h
  rw [order, hnone]
  cases p.records[i]? <;> rfl

/-- Where no sort decides, the rows stand in the order of the store. -/
lemma orderAfter_of_ties (h : ∀ p ∈ ps, p.order i j = .eq) : orderAfter ps i j = compare i j := by
  induction ps with
  | nil => rfl
  | cons p ps ih =>
    rw [orderAfter, h p List.mem_cons_self]
    exact ih fun q hq => h q (List.mem_cons_of_mem _ hq)

/-- A row that came after all sorts stands behind the others. -/
lemma orderAfter_of_length_le (h : ∀ p ∈ ps, p.records.length ≤ j) (hij : i < j) :
    orderAfter ps i j = .lt := by
  rw [orderAfter_of_ties fun p hp => order_of_length_le (h p hp)]
  exact Nat.compare_eq_lt.mpr hij

/-- The same sort once more makes no difference. -/
lemma orderAfter_again (p : SortPass) (ps : List SortPass) (i j : ℕ) :
    orderAfter (p :: p :: ps) i j = orderAfter (p :: ps) i j := by
  change (p.order i j).then ((p.order i j).then _) = (p.order i j).then _
  cases p.order i j <;> rfl

/-- The latest sort decides if it can. -/
lemma orderAfter_of_decided (h : p.order i j ≠ .eq) : orderAfter (p :: ps) i j = p.order i j := by
  change (p.order i j).then _ = _
  cases hp : p.order i j with
  | eq => exact absurd hp h
  | lt | gt => rfl

/-- The earlier sorts make no difference to two rows that the latest tells apart, or that none
does. -/
lemma orderAfter_of_settled (h : p.order i j = .eq → ∀ q ∈ ps, q.order i j = .eq) :
    orderAfter (p :: ps) i j = orderAfter [p] i j := by
  by_cases hp : p.order i j = .eq
  · have hties : ∀ q ∈ p :: ps, q.order i j = .eq := List.forall_mem_cons.mpr ⟨hp, h hp⟩
    rw [orderAfter_of_ties hties, orderAfter_of_ties (List.forall_mem_singleton.mpr hp)]
  · rw [orderAfter_of_decided hp, orderAfter_of_decided hp]

/-- The calls of a sort can be compared in its column. -/
def Compares (p : SortPass) : Prop :=
  ∀ a ∈ p.records, a.isComparable p.column = true

/-- A sort by calls that can be compared says of two positions the other way round what it says of
them. -/
lemma Compares.order_swap (h : p.Compares) (i j : ℕ) : p.order j i = (p.order i j).swap := by
  unfold order
  cases hi : p.records[i]? with
  | none => cases p.records[j]? <;> rfl
  | some a =>
    cases hj : p.records[j]? with
    | none => rfl
    | some b =>
      have ha := h a (List.mem_of_getElem? hi)
      have hb := h b (List.mem_of_getElem? hj)
      exact CallRecord.orderIn_swap _ ha hb

/-- Several sorts, too, say of two positions the other way round what they say of them. -/
lemma orderAfter_swap (h : ∀ p ∈ ps, p.Compares) (i j : ℕ) :
    orderAfter ps j i = (orderAfter ps i j).swap := by
  induction ps with
  | nil =>
    change compare j i = (compare i j).swap
    exact Std.OrientedCmp.eq_swap
  | cons p ps ih =>
    have hfirst := (h p List.mem_cons_self).order_swap i j
    have hrest := ih fun q hq => h q (List.mem_cons_of_mem _ hq)
    rw [orderAfter, orderAfter, hfirst, hrest, Ordering.swap_then]

/-- Sorts do not tell a position from itself. -/
lemma Compares.order_self (h : p.Compares) (i : ℕ) : p.order i i = .eq :=
  Ordering.eq_eq_of_eq_swap (h.order_swap i i)

lemma orderAfter_self (h : ∀ p ∈ ps, p.Compares) (i : ℕ) : orderAfter ps i i = .eq :=
  Ordering.eq_eq_of_eq_swap (orderAfter_swap h i i)

/-- The order after several sorts is the only one of its kind. -/
theorem eq_of_pairwise_orderAfter (h : ∀ p ∈ ps, p.Compares) {is js : List ℕ}
    (his : is.Pairwise fun i j => orderAfter ps i j = .lt)
    (hjs : js.Pairwise fun i j => orderAfter ps i j = .lt) (hperm : is.Perm js) : is = js := by
  refine hperm.eq_of_pairwise (fun i j _ _ hij hji => ?_) his hjs
  rw [orderAfter_swap h, hij] at hji
  cases hji

end SortPass

namespace Table

variable {t : Table} {s : Store} {ps : List SortPass} {r q : Row}

/-! ## The rows of a table by their positions -/

/-- The records that the rows were drawn from. -/
def records (t : Table) : List CallRecord :=
  t.rows.map (·.record)

/-- The sort of a table by its column and direction. -/
def pass (t : Table) : SortPass :=
  ⟨t.sortColumn, t.descending, t.records⟩

/-- Each row is its record, drawn. -/
def Drawn (t : Table) : Prop :=
  t.rows = drawRows t.precision t.records

/-- A row of a drawn table is the record at its position, drawn. -/
lemma Drawn.row_eq (h : t.Drawn) (hr : r ∈ t.rows) :
    t.records[r.position]? = some r.record ∧
      r = Row.drawn r.position r.record t.precision := by
  rw [h] at hr
  obtain ⟨i, hi, rfl⟩ := List.mem_mapIdx.mp hr
  exact ⟨List.getElem?_eq_getElem hi, rfl⟩

/-- Freshly drawn rows are drawn from their records. -/
@[simp] lemma map_record_drawRows (precision : ℕ) (snapshot : List CallRecord) :
    (drawRows precision snapshot).map (·.record) = snapshot := by
  refine List.ext_getElem? fun i => ?_
  unfold drawRows
  rw [List.getElem?_map, List.getElem?_mapIdx]
  cases snapshot[i]? <;> rfl

/-- The positions of the rows in the order of presentation are that order. -/
lemma Placed.map_position_presented (h : t.Placed) : t.presented.map (·.position) = t.order := by
  unfold presented
  rw [List.map_filterMap]
  have hself : ∀ i ∈ t.order, (t.rows[i]?.map (·.position)) = some i := by
    intro i hi
    have hlt : i < t.rows.length := List.mem_range.mp (h.order.subset hi)
    rw [← List.getElem?_map, h.position]
    exact List.getElem?_range hlt
  rw [List.filterMap_congr hself]
  exact List.filterMap_some

/-- The order of the positions is the order of the rows. -/
lemma Placed.pairwise_presented (h : t.Placed) {R : ℕ → ℕ → Prop} (hR : t.order.Pairwise R) :
    t.presented.Pairwise fun r q => R r.position q.position := by
  rw [← h.map_position_presented, List.pairwise_map] at hR
  exact hR

/-! ## Sorting -/

/-- A drawn row shows the cells of its record. -/
lemma Drawn.showing_eq (h : t.Drawn) (hr : r ∈ t.rows) (c : Column) :
    r.showing c = r.record.showing c t.precision := by
  obtain ⟨-, hdrawn⟩ := h.row_eq hr
  rw [hdrawn]
  exact Row.showing_drawn c _ _ _

/-- A sort compares drawn rows as it compares their records. -/
lemma Drawn.rankOrderIn_eq (h : t.Drawn)
    (hcomparable : ∀ a ∈ t.records, a.isComparable t.sortColumn = true)
    (hr : r ∈ t.rows) (hq : q ∈ t.rows) :
    Row.rankOrderIn t.sortColumn t.descending r q = t.pass.order r.position q.position := by
  have hi := (h.row_eq hr).1
  have hj := (h.row_eq hq).1
  have horder := CallRecord.orderIn_eq_rankOrderIn t.descending t.precision
    (hcomparable _ (List.mem_of_getElem? hi)) (hcomparable _ (List.mem_of_getElem? hj))
  rw [SortPass.order_of_getElem? hi hj, Row.rankOrderIn, h.showing_eq hr, h.showing_eq hq]
  exact horder.symm

/-- Behind a sort the rows stand in the order of the sort, and if they tie, in the order that they
stood in before. -/
theorem Placed.pairwise_applySort (h : t.Placed) (hdrawn : t.Drawn) (hsorting : t.sorting = true)
    (hcomparable : ∀ a ∈ t.records, a.isComparable t.sortColumn = true)
    (hbefore : t.order.Pairwise fun i j => SortPass.orderAfter ps i j = .lt) :
    t.applySort.order.Pairwise fun i j => SortPass.orderAfter (t.pass :: ps) i j = .lt := by
  have hrows : ∀ r ∈ t.presented, r ∈ t.rows := fun r hr => h.presented_perm.subset hr
  have hrecords : ∀ r ∈ t.presented, r.record.isComparable t.sortColumn = true :=
    fun r hr => hcomparable _ (List.mem_map_of_mem (hrows r hr))
  have horder : t.applySort.order =
      (sortRows t.presented t.sortColumn t.descending).map (·.position) := by
    unfold Table.applySort
    rw [if_pos hsorting]
  have hsorted := Sorting.pairwise_stableSort (Row.rankOrderIn t.sortColumn t.descending)
    (h.pairwise_presented hbefore)
  rw [← sortRows_eq hrecords] at hsorted
  rw [horder, List.pairwise_map]
  have hperm := sortRows_perm t.presented t.sortColumn t.descending
  refine hsorted.imp_of_mem fun {r q} hr hq hrq => ?_
  have hr' := hrows r (hperm.subset hr)
  have hq' := hrows q (hperm.subset hq)
  rw [hdrawn.rankOrderIn_eq hcomparable hr' hq'] at hrq
  change (t.pass.order r.position q.position).then _ = .lt
  rcases hrq with hlt | ⟨htie, hbefore⟩
  · rw [hlt]
    rfl
  · rw [htie]
    exact hbefore

/-! ## Refreshing -/

/-- A table that is presented in the order of several sorts, the latest of which was by the rows as
they are. -/
structure Arranged (t : Table) (ps : List SortPass) : Prop where
  /-- The order is one of all positions. -/
  placed : t.Placed
  /-- The rows are drawn from their records. -/
  drawn : t.Drawn
  /-- The rows are presented in the order of the sorts. -/
  sorted : t.order.Pairwise fun i j => SortPass.orderAfter (t.pass :: ps) i j = .lt
  /-- The earlier sorts were of no more rows. -/
  bounded : ∀ p ∈ ps, p.records.length ≤ t.rows.length

/-- A table without rows is presented in any order. -/
lemma arranged_of_isEmpty (hrows : t.rows = []) (horder : t.order = []) : t.Arranged [] where
  placed := placed_of_isEmpty hrows horder
  drawn := by
    rw [Drawn, records, hrows]
    rfl
  sorted := by
    rw [horder]
    exact List.Pairwise.nil
  bounded p hp := absurd hp List.not_mem_nil

/-- A table that is left alone is as it would be behind the same sort once more. -/
lemma Arranged.again (h : t.Arranged ps) : t.Arranged (t.pass :: ps) where
  placed := h.placed
  drawn := h.drawn
  sorted := by
    refine h.sorted.imp fun {i j} hij => ?_
    rw [SortPass.orderAfter_again]
    exact hij
  bounded p hp := by
    rcases List.mem_cons.mp hp with rfl | hp
    · exact Nat.le_of_eq (List.length_map _)
    · exact h.bounded p hp

/-- New rows stand behind the others, in the order of the store. -/
lemma Arranged.pairwise_extend (h : t.Arranged ps) (snapshot : List CallRecord) :
    (t.extend snapshot).order.Pairwise fun i j =>
      SortPass.orderAfter (t.pass :: ps) i j = .lt := by
  have hbounded : ∀ p ∈ t.pass :: ps, p.records.length ≤ t.rows.length := h.again.bounded
  have hlater : ∀ {i j : ℕ}, t.rows.length ≤ j → i < j →
      SortPass.orderAfter (t.pass :: ps) i j = .lt := by
    intro i j hj hij
    exact SortPass.orderAfter_of_length_le (fun p hp => Nat.le_trans (hbounded p hp) hj) hij
  change (t.order ++ List.range' t.rows.length _).Pairwise _
  rw [List.pairwise_append]
  refine ⟨h.sorted, ?_, fun i hi j hj => ?_⟩
  · have hrising : (List.range' t.rows.length (snapshot.length - t.rows.length)).Pairwise
        (· < ·) := List.pairwise_lt_range'
    exact hrising.imp_of_mem fun {i j} _ hj hij => hlater (List.mem_range'_1.mp hj).1 hij
  · have hi' : i < t.rows.length := List.mem_range.mp (h.placed.order.subset hi)
    have hj' := (List.mem_range'_1.mp hj).1
    exact hlater hj' (Nat.lt_of_lt_of_le hi' hj')

/-- A refresh draws the rows from their records. -/
lemma drawn_refresh (t : Table) (s : Store) : (t.refresh s).Drawn := by
  rw [Drawn, records, rows_refresh, map_record_drawRows, precision_refresh]

/-- A refresh presents the table in the order of one sort more. -/
theorem Arranged.refresh (h : t.Arranged ps) (hsorting : t.sorting = true)
    (hlength : t.rows.length ≤ s.published.length)
    (hcomparable : ∀ a ∈ s.published, a.isComparable t.sortColumn = true) :
    (t.refresh s).Arranged (t.pass :: ps) := by
  have hrecords : (t.drawnFrom s).records = s.published := by
    rw [records, rows_drawnFrom, map_record_drawRows]
  have hdrawnFrom : (t.drawnFrom s).Drawn := by
    rw [Drawn, hrecords, rows_drawnFrom, precision_drawnFrom]
  have hextended : (t.drawnFrom s).order = (t.extend s.published).order := by
    unfold drawnFrom
    rw [if_neg (Nat.not_lt.mpr hlength)]
  have hsorted : (t.drawnFrom s).applySort.order.Pairwise fun i j =>
      SortPass.orderAfter ((t.drawnFrom s).pass :: t.pass :: ps) i j = .lt := by
    apply (h.placed.drawnFrom s).pairwise_applySort hdrawnFrom
    · rw [sorting_drawnFrom, hsorting]
    · rw [hrecords, sortColumn_drawnFrom]
      exact hcomparable
    · rw [hextended]
      exact h.pairwise_extend s.published
  have hpass : (t.refresh s).pass = (t.drawnFrom s).pass := by
    unfold pass records
    rw [rows_refresh, sortColumn_refresh, descending_refresh, rows_drawnFrom,
      sortColumn_drawnFrom, descending_drawnFrom]
  refine ⟨h.placed.refresh s, drawn_refresh t s, ?_, fun p hp => ?_⟩
  · rw [hpass, refresh_eq]
    exact hsorted
  · rw [rows_refresh, length_drawRows]
    exact Nat.le_trans (h.again.bounded p hp) hlength

/-! ## What is presented -/

/-- The calls are presented by their positions, if they are numbered by these. -/
lemma Arranged.callIds_eq (h : t.Arranged ps)
    (hnumbered : ∀ (i : ℕ) a, t.records[i]? = some a → a.callId = i) :
    t.callIds = t.order.map fun i : ℕ => (i : Int) := by
  have hrow : ∀ r ∈ t.presented, r.record.callId = (r.position : Int) := by
    intro r hr
    exact hnumbered _ _ (h.drawn.row_eq (h.placed.presented_perm.subset hr)).1
  unfold callIds
  rw [List.map_congr_left hrow, ← h.placed.map_position_presented, List.map_map]
  rfl

end Table

end VoipCalls
