import VoipCalls.Call.Order
import VoipCalls.Store

/-!
# The call table

The table is a drawn view of the store: one row for each published record, by position, and the
positions in the order of presentation.  `refresh` draws every row from its current record and
appends the new ones; the active sort is applied to the order whenever it is asked for, unless
sorting is suspended, and then once at the end of the suspension.
-/

namespace VoipCalls

/-- The drawn view of a store. -/
structure Table where
  sortColumn : Column := .startTime
  descending : Bool := false
  precision : Nat := defaultPrecision
  rows : List Row := []
  order : List Nat := []
  sorting : Bool := true
  widths : List (Column × Nat) := []
deriving DecidableEq

namespace Table

/-- The rows in the order of presentation. -/
def presented (t : Table) : List Row :=
  t.order.filterMap fun i => t.rows[i]?

/-- The numbers of the calls in the order of presentation. -/
def callIds (t : Table) : List Int :=
  t.presented.map (·.record.callId)

/-- Sort the order of presentation by the active column, unless sorting is suspended. -/
def applySort (t : Table) : Table :=
  if t.sorting then
    { t with order := (sortRows t.presented t.sortColumn t.descending).map (·.position) }
  else t

/-- Suspend sorting. -/
def suspend (t : Table) : Table :=
  { t with sorting := false }

/-- End a suspension: `sorting` says whether sorting was on before it. -/
def resume (t : Table) (sorting : Bool) : Table :=
  { t with sorting }.applySort

/-- Forget all rows. -/
def clear (t : Table) : Table :=
  { t with rows := [], order := [], widths := [] }

/-- The rows of a snapshot, drawn. -/
def drawRows (precision : Nat) (snapshot : List CallRecord) : List Row :=
  snapshot.mapIdx fun i r => Row.drawn i r precision

/-- Draw the rows of a snapshot that is no shorter than the table. -/
def extend (t : Table) (snapshot : List CallRecord) : Table :=
  { t with
    rows := drawRows t.precision snapshot
    order := t.order ++ List.range' t.rows.length (snapshot.length - t.rows.length) }

/-- The width of a column: that of its longest text, the title included. -/
def width (rows : List Row) (c : Column) : Nat :=
  rows.foldl (fun w r => max w (r.text c).length) c.title.length

/-- Fit the columns to their texts. -/
def fit (t : Table) : Table :=
  { t with widths := Column.all.map fun c => (c, width t.rows c) }

/-- Draw the table anew from the published records.  A store with fewer records than rows was
cleared meanwhile, so the table starts over. -/
def refresh (t : Table) (s : Store) : Table :=
  let snapshot := s.published
  let t := if snapshot.length < t.rows.length then t.clear else t
  ((t.suspend.extend snapshot).resume t.sorting).fit

/-- Sort by a column from now on. -/
def sortBy (t : Table) (c : Column) (descending : Bool) : Table :=
  { t with sortColumn := c, descending }.applySort

/-- The row of a call. -/
def rowFor (t : Table) (id : Int) : Option Row :=
  t.rows.find? fun r => r.record.callId == id

/-- The width of a column; none before the first refresh. -/
def widthOf (t : Table) (c : Column) : Nat :=
  (t.widths.lookup c).getD 0

end Table

end VoipCalls
