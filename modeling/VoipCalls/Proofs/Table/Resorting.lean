import Mathlib.Data.List.Permutation
import VoipCalls.Proofs.Call.WeakOrder
import VoipCalls.Proofs.Sorting.Successive
import VoipCalls.Proofs.Table.Rows

/-!
# Rows that are sorted again and again

Rows are sorted by one column and then by another one, each time in a direction of its own
(`sortRowsBy`).  The columns are keys of one order, of which the latest comes first: a row stands in
front of another if the latest sort that tells the two apart puts it there (`Row.PutBefore`), and
rows that no sort tells apart stay as they stood, whether the sorts are descending or not.

Every sort is a stable sort by a total preorder (`sortRows_eq`), so that the law is the one of
`Sorting.exists_places`.  It is stated in `sortRowsBy_places`.
-/

namespace VoipCalls

/-- Rows that are sorted by some columns one after another, each descending or not. -/
def sortRowsBy (rows : List Row) (sorts : List (Column × Bool)) : List Row :=
  sorts.foldl (fun rows p => sortRows rows p.1 p.2) rows

namespace Row

variable {c : Column} {sorts : List (Column × Bool)} {r q : Row}

/-- The order of two rows in a column, by the texts last drawn. -/
def order (c : Column) (r q : Row) : Ordering :=
  compareCalls r.record q.record c (some (r.text c)) (some (q.text c)) defaultPrecision

/-- A row shows the cells of its record. -/
def IsDrawn (r : Row) : Prop :=
  ∃ precision, r.texts = r.record.cells precision

/-- The text of a cell of a drawn row. -/
lemma text_of_texts {precision : ℕ} (h : r.texts = r.record.cells precision) (c : Column) :
    r.text c = r.record.cell c precision := by
  rw [text, h]
  cases c <;> rfl

/-- Drawn rows are compared like their records. -/
lemma IsDrawn.order_eq (hr : r.IsDrawn) (hq : q.IsDrawn) (c : Column) :
    order c r q = CallRecord.order c r.record q.record := by
  obtain ⟨p, hr⟩ := hr
  obtain ⟨p', hq⟩ := hq
  rw [order, text_of_texts hr, text_of_texts hq]
  exact CallRecord.compareCalls_eq_order (Or.inr ⟨p, rfl⟩) (Or.inr ⟨p', rfl⟩) defaultPrecision

/-- Rows that can be compared are compared by the places of their times. -/
lemma rankOrderIn_eq (descending : Bool) (hr : r.record.isComparable c = true)
    (hq : q.record.isComparable c = true) :
    rankOrderIn c descending r q = if descending then (order c r q).swap else order c r q := by
  have horder : order c r q = Showing.rankOrder c (r.showing c) (q.showing c) :=
    Showing.order_eq_rankOrder (x := r.showing c) (y := q.showing c) hr hq
  rw [horder]
  cases descending with
  | false => rfl
  | true => exact Std.OrientedCmp.eq_swap

/-- Whether a row is put in front of another by the latest of some sorts that tells them apart. -/
def PutBefore (sorts : List (Column × Bool)) (r q : Row) : Prop :=
  ∃ earlier c descending later, sorts = earlier ++ (c, descending) :: later ∧
    order c r q = (if descending then .gt else .lt) ∧ ∀ p ∈ later, order p.1 r q = .eq

/-- The comparisons of some sorts, times by their places. -/
def comparisons (sorts : List (Column × Bool)) : List (Row → Row → Ordering) :=
  sorts.map fun p => rankOrderIn p.1 p.2

/-- Every comparison is one of a total preorder. -/
lemma transCmp_of_mem_comparisons {cmp : Row → Row → Ordering} (h : cmp ∈ comparisons sorts) :
    Std.TransCmp cmp := by
  obtain ⟨p, -, rfl⟩ := List.mem_map.mp h
  exact inferInstanceAs (Std.TransCmp (rankOrderIn p.1 p.2))

/-- The rows can be compared in the columns of some sorts. -/
def CanSort (sorts : List (Column × Bool)) (r : Row) : Prop :=
  ∀ p ∈ sorts, r.record.isComparable p.1 = true

/-- A comparison says that two rows tie exactly if they tie in the column. -/
lemma rankOrderIn_eq_eq_iff (hr : r.CanSort sorts) (hq : q.CanSort sorts) {p : Column × Bool}
    (hp : p ∈ sorts) : rankOrderIn p.1 p.2 r q = .eq ↔ order p.1 r q = .eq := by
  rw [rankOrderIn_eq p.2 (hr p hp) (hq p hp)]
  cases p.2 <;> cases order p.1 r q <;> decide

/-- A comparison puts a row before another exactly if the column does, in its direction. -/
lemma rankOrderIn_eq_lt_iff (hr : r.CanSort sorts) (hq : q.CanSort sorts) {p : Column × Bool}
    (hp : p ∈ sorts) :
    rankOrderIn p.1 p.2 r q = .lt ↔ order p.1 r q = if p.2 then .gt else .lt := by
  rw [rankOrderIn_eq p.2 (hr p hp) (hq p hp)]
  cases p.2 <;> cases order p.1 r q <;> decide

/-- No comparison tells two rows apart exactly if they tie in all columns. -/
lemma latest_comparisons_eq_eq_iff (hr : r.CanSort sorts) (hq : q.CanSort sorts) :
    Sorting.latest (comparisons sorts) r q = .eq ↔ ∀ p ∈ sorts, order p.1 r q = .eq := by
  unfold comparisons
  rw [Sorting.latest_eq_eq_iff, List.forall_mem_map]
  exact forall₂_congr fun p hp => rankOrderIn_eq_eq_iff hr hq hp

/-- The latest comparison that tells two rows apart is that of the latest sort that does. -/
lemma latest_comparisons_eq_lt_iff (hr : r.CanSort sorts) (hq : q.CanSort sorts) :
    Sorting.latest (comparisons sorts) r q = .lt ↔ r.PutBefore sorts q := by
  unfold comparisons
  rw [Sorting.latest_eq_lt_iff]
  constructor
  · rintro ⟨before, cmp, behind, hsplit, hlt, hties⟩
    obtain ⟨earlier, rest, rfl, -, hrest⟩ := List.map_eq_append_iff.mp hsplit
    obtain ⟨⟨c, descending⟩, later, rfl, rfl, rfl⟩ := List.map_eq_cons_iff.mp hrest
    refine ⟨earlier, c, descending, later, rfl, ?_, fun p hp => ?_⟩
    · exact (rankOrderIn_eq_lt_iff hr hq (by simp)).mp hlt
    · exact (rankOrderIn_eq_eq_iff hr hq (by simp [hp])).mp (hties _ (List.mem_map_of_mem hp))
  · rintro ⟨earlier, c, descending, later, rfl, hlt, hties⟩
    refine ⟨earlier.map _, rankOrderIn c descending, later.map _, List.map_append, ?_, ?_⟩
    · exact (rankOrderIn_eq_lt_iff (p := (c, descending)) hr hq (by simp)).mpr hlt
    · rw [List.forall_mem_map]
      exact fun p hp => (rankOrderIn_eq_eq_iff hr hq (by simp [hp])).mpr (hties p hp)

end Row

variable {rows : List Row} {sorts : List (Column × Bool)}

/-- Rows that can be compared are sorted by the comparisons. -/
lemma sortRowsBy_eq (h : ∀ r ∈ rows, r.CanSort sorts) :
    sortRowsBy rows sorts = Sorting.sortAll (Row.comparisons sorts) rows := by
  induction sorts generalizing rows with
  | nil => rfl
  | cons p sorts ih =>
    have hfirst : sortRows rows p.1 p.2 =
        Sorting.stableSort (fun r q => Row.rankOrderIn p.1 p.2 r q == .lt) rows :=
      sortRows_eq fun r hr => h r hr p List.mem_cons_self
    have hrest : ∀ r ∈ sortRows rows p.1 p.2, r.CanSort sorts := fun r hr p' hp' =>
      h r (mem_sortRows.mp hr) p' (List.mem_cons_of_mem p hp')
    change sortRowsBy (sortRows rows p.1 p.2) sorts = _
    rw [ih hrest, hfirst]
    rfl

/-- Rows that are sorted by one column after another are sorted by several keys, the latest one
first.  Of two rows, told by their places in the beginning, the one is in front in the end if the
latest sort that tells them apart puts it there, or if none does and it was in front in the
beginning.  Rows are compared with the texts that they show, which makes no difference if these are
drawn from their records. -/
theorem sortRowsBy_places (h : ∀ r ∈ rows, ∀ p ∈ sorts, r.record.isComparable p.1 = true) :
    ∃ places : List ℕ, places.Perm (List.range rows.length) ∧
      sortRowsBy rows sorts = places.filterMap (fun i => rows[i]?) ∧
      ∀ i j r q, rows[i]? = some r → rows[j]? = some q →
        ([i, j].Sublist places ↔
          r.PutBefore sorts q ∨ ((∀ p ∈ sorts, Row.order p.1 r q = .eq) ∧ i < j)) ∧
        (r.IsDrawn → q.IsDrawn →
          ∀ c, Row.order c r q = CallRecord.order c r.record q.record) := by
  have hcmps : ∀ cmp ∈ Row.comparisons sorts, Std.TransCmp cmp :=
    fun _ hcmp => Row.transCmp_of_mem_comparisons hcmp
  obtain ⟨places, hperm, hresult, hplaces⟩ := Sorting.exists_places hcmps rows
  refine ⟨places, hperm, (sortRowsBy_eq h).trans hresult, fun i j r q hr hq => ⟨?_, ?_⟩⟩
  · have hr' : r.CanSort sorts := h r (List.mem_of_getElem? hr)
    have hq' : q.CanSort sorts := h q (List.mem_of_getElem? hq)
    rw [hplaces, ← Row.latest_comparisons_eq_lt_iff hr' hq',
      ← Row.latest_comparisons_eq_eq_iff hr' hq']
    constructor
    · rintro ⟨r', q', hr'', hq'', hbefore⟩
      obtain rfl : r = r' := Option.some_inj.mp (hr.symm.trans hr'')
      obtain rfl : q = q' := Option.some_inj.mp (hq.symm.trans hq'')
      exact hbefore
    · exact fun hbefore => ⟨r, q, hr, hq, hbefore⟩
  · exact fun hr hq c => hr.order_eq hq c

/-- The row of a call with some packets and a state. -/
def rowOf (position : ℕ) (packetCount : Int) (callState : CallState) : Row :=
  .drawn position
    { callId := position, protocol := .sip, payload := .sip {}, packetCount, callState }
    defaultPrecision

/-- Four calls, of which the first and the last differ in nothing but their numbers. -/
def fourCalls : List Row :=
  [rowOf 0 2 .ringing, rowOf 1 1 .ringing, rowOf 2 1 .inCall, rowOf 3 2 .ringing]

/-- The calls are sorted by their packets, most of them first, and then by their states: the one
that was answered comes first, then come the two that tie, as they stood. -/
theorem sortRowsBy_fourCalls :
    (sortRowsBy fourCalls [(.packets, true), (.state, false)]).map (·.position) =
      [2, 0, 3, 1] := by
  have hcomparable : ∀ r ∈ fourCalls, ∀ p ∈ [(Column.packets, true), (.state, false)],
      r.record.isComparable p.1 = true := by decide
  obtain ⟨places, hperm, hresult, hplaces⟩ := sortRowsBy_places hcomparable
  have hanswered : [2, 0].Sublist places := by
    refine (hplaces 2 0 _ _ rfl rfl).1.mpr (Or.inl ?_)
    exact ⟨[(.packets, true)], .state, false, [], rfl, by decide, by decide⟩
  have htie : [0, 3].Sublist places :=
    (hplaces 0 3 _ _ rfl rfl).1.mpr (Or.inr ⟨by decide, by decide⟩)
  have hpackets : [3, 1].Sublist places := by
    refine (hplaces 3 1 _ _ rfl rfl).1.mpr (Or.inl ?_)
    exact ⟨[], .packets, true, [(.state, false)], rfl, by decide, by decide⟩
  have honly : ∀ is ∈ (List.range 4).permutations', [2, 0].Sublist is → [0, 3].Sublist is →
      [3, 1].Sublist is → is = [2, 0, 3, 1] := by decide
  have hsame := honly places (List.mem_permutations'.mpr hperm) hanswered htie hpackets
  rw [hresult, hsame]
  rfl

end VoipCalls
