import Mathlib.Order.Defs.Unbundled
import VoipCalls.Proofs.Call.Unchecked

/-!
# The order of the calls in a column

In every column the calls that can be compared stand in a weak order: the comparison changes its
sign when the calls are swapped, it is transitive, and so are its ties.  A call can be compared if
the time that the column shows is a number, and if the speaker that it shows has bytes
(`UncheckedCall.isComparable`).  The comparison of other times has an answer too, but speakers
without bytes are not compared at all; a call that speaks under half of a surrogate pair does not
even tie with itself (`UncheckedCall.order_halfPair`).

The comparison is the one of the places of the times (`UncheckedCall.order_eq_rankOrder`), from
which it has these laws.  The theorem `UncheckedCall.weaklyOrdered` puts them together, with what is
said of the texts: it makes no difference whether they are given, nor at what precision they were
drawn.
-/

namespace VoipCalls

/-- A total preorder with its ties is a strict weak order without them. -/
lemma isStrictWeakOrder_of_transCmp {α : Type} (cmp : α → α → Ordering) [Std.TransCmp cmp] :
    IsStrictWeakOrder α fun a b => cmp a b = .lt where
  irrefl a h := by
    have hself : cmp a a = .eq := Std.ReflCmp.compare_self
    rw [hself] at h
    cases h
  trans _ _ _ hab hbc := Std.TransCmp.lt_trans hab hbc
  incomp_trans a b c hab hbc := by
    have htie : ∀ {x y : α}, ¬ cmp x y = .lt ∧ ¬ cmp y x = .lt → cmp x y = .eq := by
      rintro x y ⟨hxy, hyx⟩
      have hswap : cmp y x = (cmp x y).swap := Std.OrientedCmp.eq_swap
      rw [hswap] at hyx
      cases hcmp : cmp x y with
      | lt => exact absurd hcmp hxy
      | eq => rfl
      | gt => exact absurd (by rw [hcmp]; rfl) hyx
    have hac : cmp a c = .eq := Std.TransCmp.eq_trans (htie hab) (htie hbc)
    have hca : cmp c a = .eq := Std.OrientedCmp.eq_symm hac
    rw [hac, hca]
    exact ⟨Ordering.noConfusion, Ordering.noConfusion⟩

namespace UncheckedCall

open Text (Point)

variable {c : Column} {a b d : UncheckedCall}

/-! ## Calls that can be compared -/

/-- The calls that can be compared with each other in a column. -/
def Comparable (c : Column) : Type :=
  { a : UncheckedCall // a.isComparable c = true }

/-- The order of the calls that can be compared in a column. -/
def comparableOrder (c : Column) (a b : Comparable c) : Ordering :=
  rankOrder c a.1 b.1

instance (c : Column) : Std.TransCmp (comparableOrder c) :=
  transCmp_comap (rankOrder c) Subtype.val

/-- One comparable call comes before another exactly if it is ordered so. -/
lemma uncheckedLess_eq_true_iff (a b : Comparable c) :
    uncheckedLess a.1 b.1 c = .ok true ↔ comparableOrder c a b = .lt := by
  have horder : compareUnchecked a.1 b.1 c none none defaultPrecision =
      .ok (comparableOrder c a b) := order_eq_rankOrder a.2 b.2
  rw [uncheckedLess, horder]
  exact (Except.ok.injEq _ _).to_iff.trans beq_iff_eq

/-- What the order of two comparable calls is. -/
lemma order_eq_ok_iff (ha : a.isComparable c = true) (hb : b.isComparable c = true)
    {o : Ordering} : order c a b = .ok o ↔ rankOrder c a b = o := by
  rw [order_eq_rankOrder ha hb]
  exact (Except.ok.injEq _ _).to_iff

/-! ## Calls of the same values -/

/-- Two calls have the same values: a time may be zero with another sign, and everything else is the
same. -/
structure SameValues (a b : UncheckedCall) : Prop where
  /-- The calls start at the same place. -/
  start : a.start.rank = b.start.rank
  /-- The calls end at the same place. -/
  stop : a.stop.rank = b.stop.rank
  /-- The calls differ in nothing but the times. -/
  rest : { a with start := b.start, stop := b.stop } = b

/-- A call has the same values as itself. -/
lemma SameValues.refl (a : UncheckedCall) : a.SameValues a :=
  ⟨rfl, rfl, rfl⟩

/-- Calls of the same values tie in every column, if their speakers have bytes where these are
compared. -/
lemma SameValues.order_eq (h : a.SameValues b)
    (hbytes : c = .initialSpeaker → a.initialSpeaker.hasBytes = true) :
    order c a b = .ok .eq := by
  have hplaces : ∀ {x y : Double}, x.rank = y.rank → x.order y = .eq := by
    intro x y hxy
    have hlt : x.lt y = false := by simp [Double.lt, hxy]
    have hgt : y.lt x = false := by simp [Double.lt, hxy]
    rw [Double.order, hlt, hgt]
    rfl
  have hself : ∀ n : ℤ, compare n n = .eq := fun n => Std.ReflCmp.compare_self
  rw [← h.rest]
  cases c with
  | startTime => exact congrArg Except.ok (Ordering.then_eq_eq.mpr ⟨hplaces h.start, hself _⟩)
  | stopTime => exact congrArg Except.ok (Ordering.then_eq_eq.mpr ⟨hplaces h.stop, hself _⟩)
  | initialSpeaker =>
    rw [order, compareUnchecked, UncheckedAddress.sortKey_eq_ok (hbytes rfl)]
    exact congrArg Except.ok (@Std.ReflCmp.compare_self _ AddressKey.order _ _)
  | packets => exact congrArg Except.ok (hself _)
  | fromIdentity | toIdentity | protocol | state | comments =>
    exact congrArg Except.ok (@Std.ReflCmp.compare_self (List ℕ) compare _ _)

/-! ## The texts of the cells -/

/-- A text of a cell is none, or the one that is drawn at some precision. -/
def IsCellText (a : UncheckedCall) (c : Column) (text : Option (List Point)) : Prop :=
  text = none ∨ ∃ precision, text = some (a.cell c precision)

/-- Texts that are given make no difference to the order, nor does the precision. -/
lemma compareUnchecked_eq_order {aText bText : Option (List Point)} (ha : a.IsCellText c aText)
    (hb : b.IsCellText c bText) (precision : ℕ) :
    compareUnchecked a b c aText bText precision = order c a b := by
  rcases ha with rfl | ⟨p, rfl⟩ <;> rcases hb with rfl | ⟨q, rfl⟩ <;> cases c <;> rfl

/-! ## The weak order -/

/-- The comparison of the calls in a column is a weak order. -/
structure WeaklyOrdered (c : Column) : Prop where
  /-- Two calls are compared, unless it is by their speakers and one of these has no bytes. -/
  compared : ∀ a b, (order c a b).isOk = true ↔
    (c = .initialSpeaker → a.initialSpeaker.hasBytes = true ∧ b.initialSpeaker.hasBytes = true)
  /-- Calls are compared the other way round when they are swapped. -/
  swap : ∀ {a b}, a.isComparable c = true → b.isComparable c = true →
    ∃ o, order c a b = .ok o ∧ order c b a = .ok o.swap
  /-- A call ties with itself. -/
  self : ∀ a, (c = .initialSpeaker → a.initialSpeaker.hasBytes = true) → order c a a = .ok .eq
  /-- Calls of the same values tie. -/
  same : ∀ {a b}, a.SameValues b → (c = .initialSpeaker → a.initialSpeaker.hasBytes = true) →
    order c a b = .ok .eq
  /-- The comparison is transitive. -/
  trans : ∀ {a b d}, a.isComparable c = true → b.isComparable c = true →
    d.isComparable c = true → ∀ {o o'}, order c a b = .ok o → o.isLE = true →
    order c b d = .ok o' → o'.isLE = true → ∃ o'', order c a d = .ok o'' ∧ o''.isLE = true
  /-- Ties are transitive. -/
  ties : ∀ {a b d}, a.isComparable c = true → b.isComparable c = true →
    d.isComparable c = true → order c a b = .ok .eq → order c b d = .ok .eq →
    order c a d = .ok .eq
  /-- To come before a call is a strict weak order. -/
  less : IsStrictWeakOrder (Comparable c) fun a b => uncheckedLess a.1 b.1 c = .ok true
  /-- By a time, only calls of one number tie. -/
  total : c = .startTime ∨ c = .stopTime → ∀ {a b}, a.callId ≠ b.callId →
    order c a b ≠ .ok .eq
  /-- Texts that are given make no difference, whatever the precision. -/
  texts : ∀ {a b aText bText}, a.IsCellText c aText → b.IsCellText c bText → ∀ precision,
    compareUnchecked a b c aText bText precision = order c a b
  /-- Calls whose texts are checked are always compared, and in this order. -/
  checked : ∀ a b, order c a.unchecked b.unchecked = .ok (CallRecord.order c a b)

/-- In every column the comparison of the calls is a weak order. -/
theorem weaklyOrdered (c : Column) : WeaklyOrdered c where
  compared a b := isOk_compareUnchecked a b c none none defaultPrecision
  swap {a b} ha hb := by
    refine ⟨rankOrder c a b, order_eq_rankOrder ha hb, ?_⟩
    rw [order_eq_ok_iff hb ha]
    exact Std.OrientedCmp.eq_swap
  self a hbytes := (SameValues.refl a).order_eq hbytes
  same h hbytes := h.order_eq hbytes
  trans {a b d} ha hb hd {o o'} hab ho hbd ho' := by
    rw [order_eq_ok_iff ha hb] at hab
    rw [order_eq_ok_iff hb hd] at hbd
    subst hab hbd
    exact ⟨rankOrder c a d, order_eq_rankOrder ha hd, Std.TransCmp.isLE_trans ho ho'⟩
  ties {a b d} ha hb hd hab hbd := by
    rw [order_eq_ok_iff ha hb] at hab
    rw [order_eq_ok_iff hb hd] at hbd
    rw [order_eq_ok_iff ha hd]
    exact Std.TransCmp.eq_trans hab hbd
  less := by
    have hless : (fun a b : Comparable c => uncheckedLess a.1 b.1 c = .ok true) =
        fun a b => comparableOrder c a b = .lt := by
      funext a b
      exact propext (uncheckedLess_eq_true_iff a b)
    rw [hless]
    exact isStrictWeakOrder_of_transCmp (comparableOrder c)
  total hc {a b} hne htie := by
    have hcalls : compare a.callId b.callId = .eq := by
      rcases hc with rfl | rfl <;> exact (Ordering.then_eq_eq.mp (Except.ok.inj htie)).2
    exact hne (Int.compare_eq_eq.mp hcalls)
  texts := compareUnchecked_eq_order
  checked a b := a.compareUnchecked_unchecked b c none none defaultPrecision

/-- A call that starts at some time. -/
def startingAt (id : Int) (start : Double) : UncheckedCall :=
  { callId := id, protocol := .sip, payload := .sip {}, start }

/-- Calls that start at zero are ordered by their numbers, whatever the sign of the zero. -/
theorem weaklyOrdered_zeros :
    order .startTime (startingAt 1 .zero) (startingAt 2 (.ofMagnitude true 0)) = .ok .lt ∧
    order .startTime (startingAt 2 (.ofMagnitude true 0)) (startingAt 1 .zero) = .ok .gt ∧
    order .startTime (startingAt 1 .zero) (startingAt 1 (.ofMagnitude true 0)) = .ok .eq := by
  have hlt : order .startTime (startingAt 1 .zero) (startingAt 2 (.ofMagnitude true 0)) =
      .ok .lt := by
    decide
  obtain ⟨o, ho, hswap⟩ := (weaklyOrdered .startTime).swap (a := startingAt 1 .zero)
    (b := startingAt 2 (.ofMagnitude true 0)) (by decide) (by decide)
  refine ⟨hlt, ?_, ?_⟩
  · rw [hlt] at ho
    rw [hswap, ← Except.ok.inj ho]
    rfl
  · exact (weaklyOrdered .startTime).same ⟨by decide, rfl, rfl⟩ nofun

/-- A call whose speaker is named by half of a surrogate pair. -/
def halfPair : UncheckedCall :=
  { callId := 0, protocol := .sip, payload := .sip {}, initialSpeaker := .name [.surrogate 0xD800] }

/-- The times of this call are numbers, but by its speaker it does not tie with itself. -/
theorem order_halfPair :
    halfPair.start.isNaN = false ∧ halfPair.stop.isNaN = false ∧
    order .initialSpeaker halfPair halfPair = .error ⟨0, [0xD800]⟩ ∧
    order .initialSpeaker halfPair halfPair ≠ .ok .eq := by
  refine ⟨by decide, by decide, rfl, nofun⟩

end UncheckedCall

end VoipCalls
