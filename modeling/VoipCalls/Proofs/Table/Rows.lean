import Mathlib.Data.List.Basic
import Mathlib.Data.List.Induction
import VoipCalls.Proofs.Sorting.Rearrangement
import VoipCalls.Table

/-!
# The rows of the table

The table keeps its rows by position, and apart from them the order in which they are presented.
`Table.Placed` says that the two fit: the order names every position once, and every row knows its
own.  Each operation on a table keeps it, for sorting only rearranges the order, whatever the
column.

So what is presented are the rows and nothing else (`Placed.presented_perm`).  A refresh draws the
published records, sorts the rows and fits the columns (`refresh_eq`), and it makes the rows these
records, each drawn once (`rows_refresh`).
-/

namespace VoipCalls

/-- Sorting rows by a column rearranges them. -/
lemma sortRows_perm (rows : List Row) (c : Column) (descending : Bool) :
    (sortRows rows c descending).Perm rows := by
  unfold sortRows
  split
  · split
    · exact Sorting.stableSortDescending_perm _ _
    · exact Sorting.stableSort_perm _ _
  · split
    · exact Sorting.runSortDescending_perm _ _
    · exact Sorting.runSort_perm _ _

/-- The sorted rows are the same rows. -/
@[simp] lemma mem_sortRows {rows : List Row} {c : Column} {descending : Bool} {r : Row} :
    r ∈ sortRows rows c descending ↔ r ∈ rows :=
  (sortRows_perm rows c descending).mem_iff

namespace Table

/-- The order of presentation names every position once, and every row knows its position. -/
structure Placed (t : Table) : Prop where
  /-- The order is one of all positions. -/
  order : t.order.Perm (List.range t.rows.length)
  /-- A row has the position that it stands at. -/
  position : t.rows.map (·.position) = List.range t.rows.length

variable {t : Table} {snapshot : List CallRecord}

/-! ## What is presented -/

/-- In the order of the positions all rows are presented as they stand. -/
lemma filterMap_range (rows : List Row) :
    (List.range rows.length).filterMap (fun i => rows[i]?) = rows := by
  induction rows using List.reverseRecOn with
  | nil => rfl
  | append_singleton rows r ih =>
    have hfront : (List.range rows.length).filterMap (fun i => (rows ++ [r])[i]?) = rows := by
      refine Eq.trans (List.filterMap_congr fun i hi => ?_) ih
      exact List.getElem?_append_left (List.mem_range.mp hi)
    rw [List.length_append, List.length_singleton, List.range_succ, List.filterMap_append, hfront]
    simp

/-- What is presented are the rows, in some order. -/
theorem Placed.presented_perm (h : t.Placed) : t.presented.Perm t.rows := by
  have hrows := h.order.filterMap fun i => t.rows[i]?
  rwa [filterMap_range] at hrows

/-! ## Drawing and sorting -/

@[simp] lemma length_drawRows (precision : ℕ) (snapshot : List CallRecord) :
    (drawRows precision snapshot).length = snapshot.length :=
  List.length_mapIdx

/-- A drawn row has the position of its record. -/
lemma position_drawRows (precision : ℕ) (snapshot : List CallRecord) :
    (drawRows precision snapshot).map (·.position) = List.range snapshot.length := by
  refine List.ext_getElem? fun i => ?_
  unfold drawRows
  rw [List.getElem?_map, List.getElem?_mapIdx]
  by_cases hi : i < snapshot.length
  · rw [List.getElem?_eq_getElem hi, List.getElem?_range hi]
    rfl
  · rw [List.getElem?_eq_none (by omega), List.getElem?_eq_none (by simpa using hi)]
    rfl

/-- A table without rows is placed. -/
lemma placed_of_isEmpty (hrows : t.rows = []) (horder : t.order = []) : t.Placed := by
  refine ⟨?_, ?_⟩ <;> simp [hrows, horder]

/-- Sorting keeps a table placed. -/
lemma Placed.applySort (h : t.Placed) : t.applySort.Placed := by
  unfold Table.applySort
  split
  · refine ⟨?_, h.position⟩
    have hsorted := (sortRows_perm t.presented t.sortColumn t.descending).trans h.presented_perm
    have hpositions := hsorted.map (·.position)
    rwa [h.position] at hpositions
  · exact h

/-- Sorting by another column keeps a table placed. -/
lemma Placed.sortBy (h : t.Placed) (c : Column) (descending : Bool) :
    (t.sortBy c descending).Placed :=
  Placed.applySort ⟨h.order, h.position⟩

/-- Drawing a snapshot that is no shorter than the table keeps the table placed. -/
lemma Placed.extend (h : t.Placed) (hlength : t.rows.length ≤ snapshot.length) :
    (t.extend snapshot).Placed := by
  have hgrown : List.range snapshot.length =
      List.range t.rows.length ++
        List.range' t.rows.length (snapshot.length - t.rows.length) := by
    obtain ⟨added, hadded⟩ := Nat.exists_eq_add_of_le hlength
    rw [hadded, Nat.add_sub_cancel_left, List.range_add, List.range'_eq_map_range]
  refine ⟨?_, ?_⟩
  · change (t.order ++ _).Perm (List.range (drawRows t.precision snapshot).length)
    rw [length_drawRows, hgrown]
    exact h.order.append_right _
  · change (drawRows t.precision snapshot).map _ = List.range (drawRows _ snapshot).length
    rw [length_drawRows]
    exact position_drawRows _ _

/-! ## What sorting and drawing leave alone -/

@[simp] lemma rows_applySort (t : Table) : t.applySort.rows = t.rows := by
  unfold applySort
  split <;> rfl

@[simp] lemma precision_applySort (t : Table) : t.applySort.precision = t.precision := by
  unfold applySort
  split <;> rfl

@[simp] lemma sortColumn_applySort (t : Table) : t.applySort.sortColumn = t.sortColumn := by
  unfold applySort
  split <;> rfl

@[simp] lemma descending_applySort (t : Table) : t.applySort.descending = t.descending := by
  unfold applySort
  split <;> rfl

/-- Sorting is not suspended by it. -/
@[simp] lemma sorting_applySort (t : Table) : t.applySort.sorting = t.sorting := by
  unfold applySort
  split <;> rfl

@[simp] lemma rows_sortBy (t : Table) (c : Column) (descending : Bool) :
    (t.sortBy c descending).rows = t.rows :=
  rows_applySort _

@[simp] lemma precision_sortBy (t : Table) (c : Column) (descending : Bool) :
    (t.sortBy c descending).precision = t.precision :=
  precision_applySort _

@[simp] lemma sortColumn_sortBy (t : Table) (c : Column) (descending : Bool) :
    (t.sortBy c descending).sortColumn = c :=
  sortColumn_applySort _

@[simp] lemma descending_sortBy (t : Table) (c : Column) (descending : Bool) :
    (t.sortBy c descending).descending = descending :=
  descending_applySort _

@[simp] lemma sorting_sortBy (t : Table) (c : Column) (descending : Bool) :
    (t.sortBy c descending).sorting = t.sorting :=
  sorting_applySort _

/-! ## Refreshing -/

/-- The table of a refresh before it is sorted: all records are drawn, and the new ones stand behind
the others. -/
def drawnFrom (t : Table) (s : Store) : Table :=
  let u := if s.published.length < t.rows.length then t.clear else t
  { u.extend s.published with sorting := t.sorting }

/-- A refresh draws the records, sorts the rows and fits the columns. -/
lemma refresh_eq (t : Table) (s : Store) : t.refresh s = (t.drawnFrom s).applySort.fit := by
  unfold refresh drawnFrom
  dsimp only
  split <;> rfl

@[simp] lemma rows_drawnFrom (t : Table) (s : Store) :
    (t.drawnFrom s).rows = drawRows t.precision s.published := by
  unfold drawnFrom
  dsimp only
  split <;> rfl

@[simp] lemma precision_drawnFrom (t : Table) (s : Store) :
    (t.drawnFrom s).precision = t.precision := by
  unfold drawnFrom
  dsimp only
  split <;> rfl

@[simp] lemma sortColumn_drawnFrom (t : Table) (s : Store) :
    (t.drawnFrom s).sortColumn = t.sortColumn := by
  unfold drawnFrom
  dsimp only
  split <;> rfl

@[simp] lemma descending_drawnFrom (t : Table) (s : Store) :
    (t.drawnFrom s).descending = t.descending := by
  unfold drawnFrom
  dsimp only
  split <;> rfl

/-- Sorting is as it was before the refresh suspended it. -/
@[simp] lemma sorting_drawnFrom (t : Table) (s : Store) : (t.drawnFrom s).sorting = t.sorting :=
  rfl

/-- Drawing the records keeps a table placed, even if there are fewer of them than before. -/
lemma Placed.drawnFrom (h : t.Placed) (s : Store) : (t.drawnFrom s).Placed := by
  unfold Table.drawnFrom
  dsimp only
  split
  · have hplaced : (t.clear.extend s.published).Placed :=
      (placed_of_isEmpty rfl rfl).extend (Nat.zero_le _)
    exact ⟨hplaced.order, hplaced.position⟩
  · have hplaced := Placed.extend h (Nat.not_lt.mp ‹_›)
    exact ⟨hplaced.order, hplaced.position⟩

/-- A refresh keeps a table placed. -/
lemma Placed.refresh (h : t.Placed) (s : Store) : (t.refresh s).Placed := by
  have hsorted := (h.drawnFrom s).applySort
  rw [refresh_eq]
  exact ⟨hsorted.order, hsorted.position⟩

/-- A refresh draws every published record anew. -/
theorem rows_refresh (t : Table) (s : Store) :
    (t.refresh s).rows = drawRows t.precision s.published := by
  rw [refresh_eq]
  exact (rows_applySort _).trans (rows_drawnFrom t s)

@[simp] lemma precision_refresh (t : Table) (s : Store) :
    (t.refresh s).precision = t.precision := by
  rw [refresh_eq]
  exact (precision_applySort _).trans (precision_drawnFrom t s)

@[simp] lemma sortColumn_refresh (t : Table) (s : Store) :
    (t.refresh s).sortColumn = t.sortColumn := by
  rw [refresh_eq]
  exact (sortColumn_applySort _).trans (sortColumn_drawnFrom t s)

@[simp] lemma descending_refresh (t : Table) (s : Store) :
    (t.refresh s).descending = t.descending := by
  rw [refresh_eq]
  exact (descending_applySort _).trans (descending_drawnFrom t s)

/-- A refresh ends the suspension that it starts. -/
@[simp] lemma sorting_refresh (t : Table) (s : Store) : (t.refresh s).sorting = t.sorting := by
  rw [refresh_eq]
  exact (sorting_applySort _).trans (sorting_drawnFrom t s)

end Table

end VoipCalls
