import Mathlib.Order.Bounds.Defs
import VoipCalls.Proofs.Table.Presentation
import VoipCalls.Proofs.Table.Resorting

/-!
# What a table shows after a refresh

A table is refreshed, sorted and cleared in any order, and each refresh may be from another store:
one that has grown or was revised, or one that was cleared and filled again meanwhile.  Whatever
came before, a refresh leaves the table with the published records and nothing else, each of them
drawn once, in the order of the active column and with columns of the right width
(`Table.Shows`).  If the store has not changed, the next refresh changes nothing at all.

What a table keeps between the refreshes is that its order fits its rows (`Table.Kept`).  From this
alone a refresh starts: it draws all rows anew (`Table.drawnFrom`), sorts them from where they
stand, which is to rearrange them (`Placed.presented_applySort`), and fits the columns
(`isGreatest_width`).
-/

namespace VoipCalls

/-- To sort rows once more by the same column and in the same direction changes nothing. -/
lemma sortRows_sortRows {rows : List Row} {c : Column} {descending : Bool}
    (h : ∀ r ∈ rows, r.record.isComparable c = true) :
    sortRows (sortRows rows c descending) c descending = sortRows rows c descending := by
  have hsorted : ∀ r ∈ sortRows rows c descending, r.record.isComparable c = true :=
    fun r hr => h r (mem_sortRows.mp hr)
  rw [sortRows_eq hsorted, sortRows_eq h]
  exact Sorting.stableSort_stableSort (Row.rankOrderIn c descending) rows

/-- Sorted rows stand in the order of the column, ascending or descending. -/
lemma pairwise_sortRows {rows : List Row} {c : Column} (descending : Bool)
    (h : ∀ r ∈ rows, r.record.isComparable c = true) :
    (sortRows rows c descending).Pairwise fun r q =>
      Row.order c r q ≠ if descending then .lt else .gt := by
  have hany : rows.Pairwise fun _ _ => True := List.pairwise_of_forall fun _ _ => trivial
  have hsorted := Sorting.pairwise_stableSort (Row.rankOrderIn c descending) hany
  rw [← sortRows_eq h] at hsorted
  have hmem : ∀ r ∈ sortRows rows c descending, r.record.isComparable c = true :=
    fun r hr => h r (mem_sortRows.mp hr)
  refine hsorted.imp_of_mem fun {r q} hr hq hrq => ?_
  rw [Row.rankOrderIn_eq descending (hmem r hr) (hmem q hq)] at hrq
  cases descending <;> cases horder : Row.order c r q <;> simp_all

namespace Table

variable {t : Table} {s : Store} {active : Column × Bool} {precision : ℕ}

/-! ## Operations and runs -/

/-- An operation on a table. -/
inductive Operation where
  | refresh (s : Store)
  | sortBy (c : Column) (descending : Bool)
  | clear
deriving DecidableEq

/-- The table after an operation. -/
def perform (t : Table) : Operation → Table
  | .refresh s => t.refresh s
  | .sortBy c descending => t.sortBy c descending
  | .clear => t.clear

/-- The table after some operations. -/
def run (t : Table) (ops : List Operation) : Table :=
  ops.foldl perform t

/-- A new table. -/
def new (c : Column) (descending : Bool) (precision : ℕ) : Table :=
  { sortColumn := c, descending, precision }

/-- The column that is active after an operation, and whether it is descending. -/
def Operation.sortAfter (active : Column × Bool) : Operation → Column × Bool
  | .sortBy c descending => (c, descending)
  | .refresh _ | .clear => active

/-- The column that is active after some operations, and whether it is descending: the one that was
last asked for. -/
def lastSort (active : Column × Bool) (ops : List Operation) : Column × Bool :=
  ops.foldl Operation.sortAfter active

/-- What a table keeps in every run. -/
structure Kept (t : Table) (active : Column × Bool) (precision : ℕ) : Prop where
  /-- The order names every position once. -/
  placed : t.Placed
  /-- Sorting is not suspended. -/
  sorting : t.sorting = true
  /-- The column and the direction are those that were last asked for. -/
  active : (t.sortColumn, t.descending) = active
  /-- The precision is the one from the beginning. -/
  precision : t.precision = precision

/-- A new table has no rows. -/
lemma kept_new (c : Column) (descending : Bool) (precision : ℕ) :
    (new c descending precision).Kept (c, descending) precision :=
  ⟨placed_of_isEmpty rfl rfl, rfl, rfl, rfl⟩

/-- A refresh keeps what tables keep. -/
lemma Kept.refresh (h : t.Kept active precision) (s : Store) :
    (t.refresh s).Kept active precision := by
  refine ⟨h.placed.refresh s, ?_, ?_, ?_⟩
  · rw [sorting_refresh, h.sorting]
  · rw [sortColumn_refresh, descending_refresh, h.active]
  · rw [precision_refresh, h.precision]

/-- Every operation keeps what tables keep. -/
lemma Kept.perform (h : t.Kept active precision) (op : Operation) :
    (t.perform op).Kept (op.sortAfter active) precision := by
  cases op with
  | refresh s => exact h.refresh s
  | sortBy c descending =>
    refine ⟨h.placed.sortBy c descending, ?_, ?_, ?_⟩
    · exact (sorting_sortBy t c descending).trans h.sorting
    · exact Prod.ext (sortColumn_sortBy t c descending) (descending_sortBy t c descending)
    · exact (precision_sortBy t c descending).trans h.precision
  | clear => exact ⟨placed_of_isEmpty rfl rfl, h.sorting, h.active, h.precision⟩

/-- Every run keeps what tables keep. -/
lemma Kept.run (h : t.Kept active precision) (ops : List Operation) :
    (t.run ops).Kept (lastSort active ops) precision := by
  induction ops generalizing t active with
  | nil => exact h
  | cons op ops ih => exact ih (h.perform op)

/-! ## Sorting what is presented -/

/-- The rows of a placed table are found at their positions. -/
lemma Placed.getElem?_position (h : t.Placed) {r : Row} (hr : r ∈ t.rows) :
    t.rows[r.position]? = some r := by
  obtain ⟨i, hi, rfl⟩ := List.mem_iff_getElem.mp hr
  have hposition : (t.rows.map (·.position))[i]? = some i := by
    rw [h.position]
    exact List.getElem?_range hi
  rw [List.getElem?_map, List.getElem?_eq_getElem hi, Option.map_some, Option.some_inj] at hposition
  rw [hposition]
  exact List.getElem?_eq_getElem hi

/-- Sorting a table sorts the rows that it presents. -/
lemma Placed.presented_applySort (h : t.Placed) (hsorting : t.sorting = true) :
    t.applySort.presented = sortRows t.presented t.sortColumn t.descending := by
  have hfound : ∀ r ∈ sortRows t.presented t.sortColumn t.descending,
      t.rows[r.position]? = some r := fun r hr =>
    h.getElem?_position (h.presented_perm.subset (mem_sortRows.mp hr))
  unfold presented
  rw [rows_applySort]
  unfold Table.applySort
  rw [if_pos hsorting, List.filterMap_map]
  exact (List.filterMap_congr hfound).trans List.filterMap_some

/-! ## The width of a column -/

/-- A column is as wide as the longest of its texts, the title included. -/
lemma isGreatest_width (rows : List Row) (c : Column) :
    IsGreatest { n | n = c.title.length ∨ ∃ r ∈ rows, n = (r.text c).length } (width rows c) := by
  induction rows using List.reverseRecOn with
  | nil =>
    refine ⟨Or.inl rfl, ?_⟩
    rintro n (rfl | ⟨r, hr, -⟩)
    · exact Nat.le_refl _
    · exact absurd hr List.not_mem_nil
  | append_singleton rows r ih =>
    have hwidth : width (rows ++ [r]) c = max (width rows c) (r.text c).length := by
      unfold width
      rw [List.foldl_append]
      rfl
    obtain ⟨hmem, hbound⟩ := ih
    rw [hwidth]
    refine ⟨?_, ?_⟩
    · rcases Nat.le_total (width rows c) (r.text c).length with hle | hle
      · rw [Nat.max_eq_right hle]
        exact Or.inr ⟨r, by simp, rfl⟩
      · rw [Nat.max_eq_left hle]
        rcases hmem with htitle | ⟨q, hq, hlength⟩
        · exact Or.inl htitle
        · exact Or.inr ⟨q, List.mem_append_left _ hq, hlength⟩
    · rintro n (rfl | ⟨q, hq, rfl⟩)
      · exact Nat.le_trans (hbound (Or.inl rfl)) (Nat.le_max_left _ _)
      · rcases List.mem_append.mp hq with hq | hq
        · exact Nat.le_trans (hbound (Or.inr ⟨q, hq, rfl⟩)) (Nat.le_max_left _ _)
        · obtain rfl := List.mem_singleton.mp hq
          exact Nat.le_max_right _ _

/-- Fitting sets the width of every column. -/
lemma widthOf_fit (t : Table) (c : Column) : t.fit.widthOf c = width t.rows c := by
  cases c <;> rfl

/-! ## What is shown -/

/-- What a table shows of some records. -/
structure Shows (t : Table) (active : Column × Bool) (precision : ℕ)
    (records : List CallRecord) : Prop where
  /-- The rows present the records. -/
  contents : (t.presented.map (·.record)).Perm records
  /-- Every position of a record is presented by one row. -/
  positions : (t.presented.map (·.position)).Perm (List.range records.length)
  /-- The row of a position has the record that stands there. -/
  current : ∀ r ∈ t.presented, records[r.position]? = some r.record
  /-- The texts of a row are the cells of its record. -/
  texts : ∀ r ∈ t.presented, r.texts = r.record.cells precision
  /-- The rows stand in the order of the active column: none of them comes after one that is behind
  it, or before it if the column is descending. -/
  sorted : t.presented.Pairwise fun r q =>
    CallRecord.order active.1 r.record q.record ≠ if active.2 then .lt else .gt
  /-- Every column is as wide as the longest of its texts, the title included. -/
  widths : ∀ c, IsGreatest
    { n | n = c.title.length ∨ ∃ r ∈ t.presented, n = (r.text c).length } (t.widthOf c)

/-- What a refresh presents are the drawn records, sorted. -/
lemma Kept.presented_refresh (h : t.Kept active precision) (s : Store) :
    (t.refresh s).presented = sortRows (t.drawnFrom s).presented active.1 active.2 := by
  have hsorting : (t.drawnFrom s).sorting = true := h.sorting
  have hsorted := (h.placed.drawnFrom s).presented_applySort hsorting
  have hcolumn : t.sortColumn = active.1 := congrArg Prod.fst h.active
  have hdescending : t.descending = active.2 := congrArg Prod.snd h.active
  rw [sortColumn_drawnFrom, descending_drawnFrom] at hsorted
  rw [refresh_eq, ← hcolumn, ← hdescending]
  exact hsorted

/-- The drawn records can be compared if the published ones can. -/
lemma Kept.isComparable_drawnFrom (h : t.Kept active precision)
    (hcomparable : ∀ a ∈ s.published, a.isComparable active.1 = true) :
    ∀ r ∈ (t.drawnFrom s).presented, r.record.isComparable active.1 = true := by
  intro r hr
  have hrow := (h.placed.drawnFrom s).presented_perm.subset hr
  rw [rows_drawnFrom] at hrow
  have hrecord := List.mem_map_of_mem (f := (·.record)) hrow
  rw [map_record_drawRows] at hrecord
  exact hcomparable _ hrecord

/-- After a refresh the table shows the published records. -/
theorem Kept.shows_refresh (h : t.Kept active precision)
    (hcomparable : ∀ a ∈ s.published, a.isComparable active.1 = true) :
    (t.refresh s).Shows active precision s.published := by
  have hkept := h.refresh s
  have hperm := hkept.placed.presented_perm
  have hrows : (t.refresh s).rows = drawRows precision s.published := by
    rw [rows_refresh, h.precision]
  have hrecords : (t.refresh s).records = s.published := by
    rw [Table.records, hrows, map_record_drawRows]
  have hrow : ∀ r ∈ (t.refresh s).presented, s.published[r.position]? = some r.record ∧
      r = Row.drawn r.position r.record precision := by
    intro r hr
    have hdrawn := (drawn_refresh t s).row_eq (hperm.subset hr)
    rwa [hrecords, hkept.precision] at hdrawn
  have htexts : ∀ r ∈ (t.refresh s).presented, r.texts = r.record.cells precision :=
    fun r hr => congrArg Row.texts (hrow r hr).2
  refine ⟨?_, ?_, fun r hr => (hrow r hr).1, htexts, ?_, fun c => ?_⟩
  · have hmap := hperm.map (·.record)
    rwa [hrows, map_record_drawRows] at hmap
  · have hmap := hperm.map (·.position)
    rwa [hrows, position_drawRows] at hmap
  · have hsorted := pairwise_sortRows active.2 (h.isComparable_drawnFrom hcomparable)
    rw [← h.presented_refresh s] at hsorted
    refine hsorted.imp_of_mem fun {r q} hr hq hrq => ?_
    have hr' : r.IsDrawn := ⟨precision, htexts r hr⟩
    rwa [hr'.order_eq ⟨precision, htexts q hq⟩] at hrq
  · have hwidth := isGreatest_width (t.refresh s).rows c
    have hsame : ∀ n, (∃ r ∈ (t.refresh s).presented, n = (r.text c).length) ↔
        ∃ r ∈ (t.refresh s).rows, n = (r.text c).length := by
      intro n
      simp only [hperm.mem_iff]
    have hfit : (t.refresh s).widthOf c = width (t.refresh s).rows c := by
      rw [refresh_eq]
      exact widthOf_fit _ c
    simp only [hsame]
    rw [hfit]
    exact hwidth

/-! ## Refreshing again -/

/-- A table that has drawn the records of a store draws the same when it draws them again. -/
lemma drawnFrom_eq_self (hrows : t.rows = drawRows t.precision s.published) :
    t.drawnFrom s = t := by
  have hlength : t.rows.length = s.published.length := by rw [hrows, length_drawRows]
  have horder : t.order ++ List.range' t.rows.length (s.published.length - t.rows.length) =
      t.order := by
    rw [hlength, Nat.sub_self]
    exact List.append_nil _
  unfold drawnFrom
  dsimp only
  rw [if_neg (by omega)]
  unfold extend
  rw [horder, ← hrows]

/-- If the store has not changed, another refresh changes nothing. -/
theorem Kept.refresh_refresh (h : t.Kept active precision)
    (hcomparable : ∀ a ∈ s.published, a.isComparable active.1 = true) :
    (t.refresh s).refresh s = t.refresh s := by
  obtain ⟨u, hu⟩ : ∃ u, u = t.refresh s := ⟨_, rfl⟩
  have hkept : u.Kept active precision := by
    rw [hu]
    exact h.refresh s
  have hdrawn : u.drawnFrom s = u := by
    apply drawnFrom_eq_self
    rw [hu, rows_refresh, precision_refresh]
  have hsorted : sortRows u.presented active.1 active.2 = u.presented := by
    rw [hu, h.presented_refresh s]
    exact sortRows_sortRows (h.isComparable_drawnFrom hcomparable)
  have horder : u.applySort = u := by
    have hcolumn : u.sortColumn = active.1 := congrArg Prod.fst hkept.active
    have hdescending : u.descending = active.2 := congrArg Prod.snd hkept.active
    rw [← hcolumn, ← hdescending] at hsorted
    unfold applySort
    rw [if_pos hkept.sorting, hsorted, hkept.placed.map_position_presented]
  have hfit : u.fit = u := by
    rw [hu, refresh_eq]
    rfl
  rw [← hu, refresh_eq, hdrawn, horder, hfit]

/-- Whatever a table was asked for, a refresh leaves it with the published records, each drawn once
and in the order of the active column, and with columns of the right width; and the next refresh
from the same store changes nothing. -/
theorem run_refresh (c : Column) (descending : Bool) (precision : ℕ) (ops : List Operation)
    (s : Store) (hnumbers : ∀ a ∈ s.published, a.start.isNaN = false ∧ a.stop.isNaN = false) :
    (((new c descending precision).run ops).refresh s).Shows (lastSort (c, descending) ops)
      precision s.published ∧
    (((new c descending precision).run ops).refresh s).refresh s =
      ((new c descending precision).run ops).refresh s := by
  have hkept := (kept_new c descending precision).run ops
  have hcomparable : ∀ a ∈ s.published,
      a.isComparable (lastSort (c, descending) ops).1 = true := fun a ha =>
    CallRecord.isComparable_of_numbers (hnumbers a ha).1 (hnumbers a ha).2 _
  exact ⟨hkept.shows_refresh hcomparable, hkept.refresh_refresh hcomparable⟩

/-- A store that has published the records of some rows. -/
def storeOf (rows : List Row) : Store :=
  { working := rows.map (·.record), published := rows.map (·.record) }

/-- Two calls, of which the second has more packets. -/
def twoCalls : List Row :=
  [rowOf 0 1 .ringing, rowOf 1 2 .inCall]

/-- A table that shows four calls, most packets first, is refreshed from a store that has two other
calls by now. -/
theorem run_refresh_twoCalls :
    (((new .startTime false defaultPrecision).run
      [.refresh (storeOf fourCalls), .sortBy .packets true]).refresh
        (storeOf twoCalls)).presented.map (·.position) = [1, 0] := by
  have hshows := (run_refresh .startTime false defaultPrecision
    [.refresh (storeOf fourCalls), .sortBy .packets true] (storeOf twoCalls) (by decide)).1
  have hchoice : ∀ is ∈ (List.range 2).permutations', is ≠ [1, 0] → is = [0, 1] := by decide
  by_contra hne
  have hpositions := hchoice _ (List.mem_permutations'.mpr hshows.positions) hne
  obtain ⟨r, rest, hpresented, hr, hrest⟩ := List.map_eq_cons_iff.mp hpositions
  obtain ⟨q, rest, rfl, hq, hnil⟩ := List.map_eq_cons_iff.mp hrest
  obtain rfl := List.map_eq_nil_iff.mp hnil
  have hcurrent := hshows.current
  have hsorted := hshows.sorted
  rw [hpresented] at hcurrent hsorted
  have hfirst := hcurrent r (by simp)
  have hsecond := hcurrent q (by simp)
  rw [hr] at hfirst
  rw [hq] at hsecond
  have hr' : (rowOf 0 1 .ringing).record = r.record := Option.some_inj.mp hfirst
  have hq' : (rowOf 1 2 .inCall).record = q.record := Option.some_inj.mp hsecond
  have horder := List.pairwise_pair.mp hsorted
  rw [← hr', ← hq'] at horder
  exact horder (by decide)

end Table

end VoipCalls
