import Mathlib.Order.Basic
import VoipCalls.Call.Order
import VoipCalls.Proofs.Address.Order
import VoipCalls.Proofs.Number.Comparison
import VoipCalls.Proofs.Sorting.Stability

/-!
# The comparison of calls

What a column shows of a call is its record and the text of its cell (`Showing`).  In every column
these are compared by some part of them (`Standing`), and among calls whose times are numbers the
comparison is a total preorder: `Showing.rankOrder` is one for all calls, by the places of the
times, and `Showing.order_eq_rankOrder` says that nothing else is compared.

So a sort of rows is a stable sort by such a preorder (`sortRows_eq`).  For rows that are drawn it
makes no difference at what precision they were drawn (`CallRecord.order_showing`).
-/

namespace VoipCalls

/-! ## Times and addresses -/

/-- Numbers are ordered by their places. -/
lemma Double.order_eq {x y : Double} (hx : x.isNaN = false) (hy : y.isNaN = false) :
    x.order y = compare x.rank y.rank := by
  have hxy : x.lt y = true ↔ x.rank < y.rank := by simp [Double.lt_iff, hx, hy]
  have hyx : y.lt x = true ↔ y.rank < x.rank := by simp [Double.lt_iff, hx, hy]
  unfold Double.order
  rcases Int.lt_trichotomy x.rank y.rank with hlt | heq | hgt
  · rw [if_pos (hxy.mpr hlt)]
    exact (Int.compare_eq_lt.mpr hlt).symm
  · rw [if_neg (fun h => by have := hxy.mp h; omega), if_neg (fun h => by have := hyx.mp h; omega)]
    exact (Int.compare_eq_eq.mpr heq).symm
  · rw [if_neg (fun h => by have := hxy.mp h; omega), if_pos (hyx.mpr hgt)]
    exact (Int.compare_eq_gt.mpr hgt).symm

instance : Std.TransCmp AddressKey.order := by
  have hoctets : Std.TransCmp fun k l : AddressKey => compareOctets k.octets l.octets := by
    simp only [compareOctets_eq]
    exact transCmp_comap compare fun k : AddressKey => k.octets.map UInt8.toNat
  exact inferInstanceAs (Std.TransCmp (compareLex
    (compareLex (compareOn AddressKey.family) (compareOn AddressKey.length))
    fun k l : AddressKey => compareOctets k.octets l.octets))

/-! ## What calls are compared by -/

/-- What calls are compared by in the columns, their times by their places; the texts are of some
kind. -/
structure Standing (τ : Type) where
  start : Int
  stop : Int
  callId : Int
  speaker : AddressKey
  packets : Int
  text : τ

namespace Standing

variable {τ : Type} [Ord τ]

/-- The order in a column. -/
def order (c : Column) (x y : Standing τ) : Ordering :=
  match c with
  | .startTime => (compare x.start y.start).then (compare x.callId y.callId)
  | .stopTime => (compare x.stop y.stop).then (compare x.callId y.callId)
  | .initialSpeaker => x.speaker.order y.speaker
  | .packets => compare x.packets y.packets
  | _ => compare x.text y.text

instance [Std.TransOrd τ] (c : Column) : Std.TransCmp (order c : Standing τ → _ → _) := by
  cases c with
  | startTime =>
    exact inferInstanceAs (Std.TransCmp (compareLex
      (compareOn fun x : Standing τ => x.start) (compareOn fun x : Standing τ => x.callId)))
  | stopTime =>
    exact inferInstanceAs (Std.TransCmp (compareLex
      (compareOn fun x : Standing τ => x.stop) (compareOn fun x : Standing τ => x.callId)))
  | initialSpeaker => exact transCmp_comap AddressKey.order fun x : Standing τ => x.speaker
  | packets => exact transCmp_comap compare fun x : Standing τ => x.packets
  | fromIdentity | toIdentity | protocol | state | comments => exact transCmp_comap compare text

end Standing

/-! ## What a column shows -/

/-- What a column shows of a call. -/
structure Showing where
  record : CallRecord
  text : String

/-- Whether a call can be compared with others in a column. -/
def CallRecord.isComparable (c : Column) (a : CallRecord) : Bool :=
  match c with
  | .startTime => !a.start.isNaN
  | .stopTime => !a.stop.isNaN
  | _ => true

/-- A call whose times are numbers can be compared in every column. -/
lemma CallRecord.isComparable_of_numbers {a : CallRecord} (hstart : a.start.isNaN = false)
    (hstop : a.stop.isNaN = false) (c : Column) : a.isComparable c = true := by
  cases c with
  | startTime => simp [isComparable, hstart]
  | stopTime => simp [isComparable, hstop]
  | initialSpeaker | fromIdentity | toIdentity | protocol | packets | state | comments => rfl

namespace Showing

/-- The order of two calls in a column, by what it shows of them. -/
def order (c : Column) (x y : Showing) : Ordering :=
  compareCalls x.record y.record c (some x.text) (some y.text) defaultPrecision

/-- What a call is compared by. -/
def standing (x : Showing) : Standing String where
  start := x.record.start.rank
  stop := x.record.stop.rank
  callId := x.record.callId
  speaker := x.record.initialSpeaker.sortKey
  packets := x.record.packetCount
  text := x.text

/-- The order of two calls in a column, times by their places. -/
def rankOrder (c : Column) (x y : Showing) : Ordering :=
  x.standing.order c y.standing

instance (c : Column) : Std.TransCmp (rankOrder c) :=
  transCmp_comap (Standing.order c) standing

variable {c : Column} {x y : Showing}

/-- Calls that can be compared are compared by the places of their times. -/
theorem order_eq_rankOrder (hx : x.record.isComparable c = true)
    (hy : y.record.isComparable c = true) : order c x y = rankOrder c x y := by
  cases c with
  | startTime =>
    have hx' : x.record.start.isNaN = false := by simpa [CallRecord.isComparable] using hx
    have hy' : y.record.start.isNaN = false := by simpa [CallRecord.isComparable] using hy
    change (x.record.start.order y.record.start).then _ = _
    rw [Double.order_eq hx' hy']
    rfl
  | stopTime =>
    have hx' : x.record.stop.isNaN = false := by simpa [CallRecord.isComparable] using hx
    have hy' : y.record.stop.isNaN = false := by simpa [CallRecord.isComparable] using hy
    change (x.record.stop.order y.record.stop).then _ = _
    rw [Double.order_eq hx' hy']
    rfl
  | initialSpeaker | fromIdentity | toIdentity | protocol | packets | state | comments => rfl

/-- The order in a column and a direction, times by their places. -/
def rankOrderIn (c : Column) (descending : Bool) (x y : Showing) : Ordering :=
  if descending then rankOrder c y x else rankOrder c x y

instance (c : Column) (descending : Bool) : Std.TransCmp (rankOrderIn c descending) := by
  cases descending with
  | false => exact inferInstanceAs (Std.TransCmp (rankOrder c))
  | true =>
    have hopposite : Std.TransCmp fun x y => rankOrder c y x := Std.TransCmp.opposite
    exact hopposite

end Showing

/-! ## Calls -/

namespace CallRecord

variable {c : Column} {a b : CallRecord}

/-- The order of two calls in a column. -/
def order (c : Column) (a b : CallRecord) : Ordering :=
  compareCalls a b c none none defaultPrecision

/-- The order of two calls in a column and a direction. -/
def orderIn (c : Column) (descending : Bool) (a b : CallRecord) : Ordering :=
  if descending then order c b a else order c a b

/-- What a column shows of a call at some precision. -/
def showing (c : Column) (precision : ℕ) (a : CallRecord) : Showing :=
  ⟨a, a.cell c precision⟩

/-- The precision makes no difference to the order. -/
theorem order_showing (c : Column) (precision precision' : ℕ) (a b : CallRecord) :
    Showing.order c (a.showing c precision) (b.showing c precision') = order c a b := by
  cases c <;> rfl

/-- A text of a cell is none, or the one that is drawn at some precision. -/
def IsCellText (a : CallRecord) (c : Column) (text : Option String) : Prop :=
  text = none ∨ ∃ precision, text = some (a.cell c precision)

/-- Texts that are given make no difference to the order, nor does the precision. -/
lemma compareCalls_eq_order {aText bText : Option String} (ha : a.IsCellText c aText)
    (hb : b.IsCellText c bText) (precision : ℕ) :
    compareCalls a b c aText bText precision = order c a b := by
  rcases ha with rfl | ⟨p, rfl⟩ <;> rcases hb with rfl | ⟨q, rfl⟩ <;> cases c <;> rfl

/-- Calls that can be compared are ordered by the places of their times, at whatever precision they
are shown. -/
theorem orderIn_eq_rankOrderIn (descending : Bool) (precision : ℕ) (ha : a.isComparable c = true)
    (hb : b.isComparable c = true) : orderIn c descending a b =
      Showing.rankOrderIn c descending (a.showing c precision) (b.showing c precision) := by
  have horder : ∀ {a b : CallRecord}, a.isComparable c = true → b.isComparable c = true →
      order c a b = Showing.rankOrder c (a.showing c precision) (b.showing c precision) := by
    intro a b ha hb
    rw [← order_showing c precision precision a b]
    exact Showing.order_eq_rankOrder (x := a.showing c precision) (y := b.showing c precision) ha hb
  cases descending with
  | false => exact horder ha hb
  | true => exact horder hb ha

/-- Calls that can be compared are ordered the other way round when they are swapped. -/
lemma orderIn_swap (descending : Bool) (ha : a.isComparable c = true)
    (hb : b.isComparable c = true) :
    orderIn c descending b a = (orderIn c descending a b).swap := by
  rw [orderIn_eq_rankOrderIn descending 0 hb ha, orderIn_eq_rankOrderIn descending 0 ha hb]
  exact Std.OrientedCmp.eq_swap

/-- Calls of one time are ordered by their numbers, so that no two calls tie. -/
lemma callId_eq_of_orderIn_eq (hc : c = .startTime ∨ c = .stopTime) {descending : Bool}
    (h : orderIn c descending a b = .eq) : a.callId = b.callId := by
  have hcalls : ∀ {a b : CallRecord}, order c a b = .eq → compare a.callId b.callId = .eq := by
    intro a b hab
    rcases hc with rfl | rfl <;> exact (Ordering.then_eq_eq.mp hab).2
  cases descending with
  | false => exact Int.compare_eq_eq.mp (hcalls h)
  | true => exact (Int.compare_eq_eq.mp (hcalls h)).symm

/-- In the column of the speakers nothing else is compared. -/
lemma orderIn_initialSpeaker {a' b' : CallRecord} (ha : a'.initialSpeaker = a.initialSpeaker)
    (hb : b'.initialSpeaker = b.initialSpeaker) (descending : Bool) :
    orderIn .initialSpeaker descending a' b' = orderIn .initialSpeaker descending a b := by
  unfold orderIn order compareCalls
  dsimp only
  rw [ha, hb]

/-- All calls of SIP tie in the column of the protocols. -/
lemma orderIn_protocol_of_sip (ha : a.protocol = .sip) (hb : b.protocol = .sip)
    (descending : Bool) : orderIn .protocol descending a b = .eq := by
  have hcell : ∀ {a : CallRecord}, a.protocol = .sip →
      a.cell .protocol defaultPrecision = Protocol.sip.text := by
    intro a ha
    change a.protocolText = _
    unfold protocolText
    rw [ha]
  have htie : ∀ {a b : CallRecord}, a.protocol = .sip → b.protocol = .sip →
      order .protocol a b = .eq := by
    intro a b ha hb
    change compare (a.cell .protocol defaultPrecision) (b.cell .protocol defaultPrecision) = .eq
    rw [hcell ha, hcell hb]
    exact Std.ReflCmp.compare_self
  cases descending with
  | false => exact htie ha hb
  | true => exact htie hb ha

end CallRecord

/-! ## Rows -/

namespace Row

variable {c : Column} {descending : Bool}

/-- What a row shows in a column. -/
def showing (c : Column) (r : Row) : Showing :=
  ⟨r.record, r.text c⟩

lemma less_eq (c : Column) (r q : Row) :
    r.less c q = (Showing.order c (r.showing c) (q.showing c) == .lt) :=
  rfl

lemma isComparable_eq (c : Column) (r : Row) : r.isComparable c = r.record.isComparable c := by
  cases c <;> rfl

/-- A drawn row shows the cells of its record. -/
lemma showing_drawn (c : Column) (position : ℕ) (a : CallRecord) (precision : ℕ) :
    (drawn position a precision).showing c = a.showing c precision := by
  cases c <;> rfl

/-- The order of two rows in a column and a direction, times by their places. -/
def rankOrderIn (c : Column) (descending : Bool) (r q : Row) : Ordering :=
  Showing.rankOrderIn c descending (r.showing c) (q.showing c)

instance (c : Column) (descending : Bool) : Std.TransCmp (rankOrderIn c descending) :=
  transCmp_comap (Showing.rankOrderIn c descending) (showing c)

end Row

/-- Sorting rows that can be compared is a stable sort by a total preorder. -/
theorem sortRows_eq {rows : List Row} {c : Column} {descending : Bool}
    (h : ∀ r ∈ rows, r.record.isComparable c = true) :
    sortRows rows c descending =
      Sorting.stableSort (fun r q => Row.rankOrderIn c descending r q == .lt) rows := by
  have hall : rows.all (Row.isComparable c) = true := by
    rw [List.all_eq_true]
    intro r hr
    rw [Row.isComparable_eq]
    exact h r hr
  have hless : ∀ r ∈ rows, ∀ q ∈ rows,
      r.less c q = (Showing.rankOrder c (r.showing c) (q.showing c) == .lt) := by
    intro r hr q hq
    have horder :=
      Showing.order_eq_rankOrder (x := r.showing c) (y := q.showing c) (h r hr) (h q hq)
    rw [Row.less_eq, horder]
  unfold sortRows
  rw [if_pos hall]
  cases descending with
  | false => exact Sorting.stableSort_congr hless
  | true =>
    rw [if_pos rfl, Sorting.stableSortDescending_eq]
    exact Sorting.stableSort_congr fun r hr q hq => hless q hq r hr

end VoipCalls
