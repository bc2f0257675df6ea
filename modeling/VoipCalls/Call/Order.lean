import VoipCalls.Call.Column
import VoipCalls.Sorting.Runs
import VoipCalls.Sorting.Stable

/-!
# The order of calls

Each column orders the calls.  Times, speakers and packet counts are compared as values, and calls
of one time by their numbers; every other column compares the texts of its cells, character by
character.  A sort is stable in both directions.

A time that is not a number comes neither before nor after any other time, so that ties are not
transitive where there is one.  Rows with such times in the column are sorted by runs.
-/

namespace VoipCalls

/-- The order of two calls in a column.  The texts of their cells may be given; a missing one is
rendered. -/
def compareCalls (a b : CallRecord) (c : Column) (aText bText : Option String) (precision : Nat) :
    Ordering :=
  match c with
  | .startTime => (a.start.order b.start).then (compare a.callId b.callId)
  | .stopTime => (a.stop.order b.stop).then (compare a.callId b.callId)
  | .initialSpeaker => a.initialSpeaker.sortKey.order b.initialSpeaker.sortKey
  | .packets => compare a.packetCount b.packetCount
  | _ => compare (aText.getD (a.cell c precision)) (bText.getD (b.cell c precision))

/-- A row of the call table: a call, its place in the store, and the texts of its cells when it was
last drawn. -/
structure Row where
  position : Nat
  record : CallRecord
  texts : List (Column × String)
deriving DecidableEq

namespace Row

/-- The text of a cell; empty before the row is drawn. -/
def text (r : Row) (c : Column) : String :=
  (r.texts.lookup c).getD ""

/-- The row of a record, drawn. -/
def drawn (position : Nat) (record : CallRecord) (precision : Nat) : Row :=
  ⟨position, record, record.cells precision⟩

/-- Whether a row comes before another in a column, by the texts last drawn. -/
def less (c : Column) (r s : Row) : Bool :=
  compareCalls r.record s.record c (some (r.text c)) (some (s.text c)) defaultPrecision == .lt

/-- Whether a row can be compared with others in a column. -/
def isComparable (c : Column) (r : Row) : Bool :=
  match c with
  | .startTime => !r.record.start.isNaN
  | .stopTime => !r.record.stop.isNaN
  | _ => true

end Row

/-- The rows sorted by a column, ties in their present order. -/
def sortRows (rows : List Row) (c : Column) (descending : Bool) : List Row :=
  if rows.all (Row.isComparable c) then
    if descending then Sorting.stableSortDescending (Row.less c) rows
    else Sorting.stableSort (Row.less c) rows
  else if descending then Sorting.runSortDescending (Row.less c) rows
  else Sorting.runSort (Row.less c) rows

end VoipCalls
