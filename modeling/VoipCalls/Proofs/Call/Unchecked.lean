import Mathlib.Data.String.Basic
import VoipCalls.Call.Unchecked
import VoipCalls.Proofs.Call.Comparison

/-!
# The comparison of calls with unchecked texts

A text has bytes unless half of a surrogate pair stands in it, and then there is nothing to compare
the speaker by.  This is the only case in which two calls cannot be compared
(`UncheckedCall.isOk_compareUnchecked`).  Otherwise they are compared by what they stand by
(`UncheckedCall.order_eq_rankOrder`), and calls whose texts are checked are compared as such
(`CallRecord.compareUnchecked_unchecked`).
-/

namespace VoipCalls

open Text (Point points)

/-! ## Texts with bytes -/

namespace Text

/-- Characters are written wherever the text starts. -/
lemma Utf8.encodeFrom_points (position : ℕ) (cs : List Char) :
    encodeFrom position (points cs) = .ok (encode cs) := by
  induction cs generalizing position with
  | nil => rfl
  | cons c cs ih =>
    have hrest := ih (position + 1)
    simp only [points] at hrest
    rw [points, List.map_cons, encodeFrom, hrest]
    rfl

/-- A text has bytes exactly if all of its points are characters. -/
lemma Utf8.isOk_encodeFrom (position : ℕ) (ps : List Point) :
    (encodeFrom position ps).isOk = ps.all fun p => p.char?.isSome := by
  induction ps generalizing position with
  | nil => rfl
  | cons p ps ih =>
    cases p with
    | char c =>
      have hmap : ∀ (x : Except EncodeFault (List UInt8)) (f : List UInt8 → List UInt8),
          (x.map f).isOk = x.isOk := by
        intro x f
        cases x <;> rfl
      rw [encodeFrom, hmap, ih, List.all_cons]
      rfl
    | surrogate n => rfl

/-- All points of a text of characters are characters. -/
lemma all_points (cs : List Char) : ((points cs).all fun p => p.char?.isSome) = true := by
  rw [points, List.all_map, List.all_eq_true]
  intro c _
  rfl

/-- Texts of characters are ordered by the numbers of their points. -/
lemma lt_iff_compare_toNat (cs ds : List Char) :
    cs < ds ↔ compare (cs.map Char.toNat) (ds.map Char.toNat) = .lt := by
  induction cs generalizing ds with
  | nil =>
    cases ds with
    | nil => exact ⟨fun h => absurd h (List.not_lt_nil _), fun h => by cases h⟩
    | cons d ds => exact ⟨fun _ => rfl, fun _ => List.nil_lt_cons d ds⟩
  | cons c cs ih =>
    cases ds with
    | nil => exact ⟨fun h => absurd h (List.not_lt_nil _), fun h => by cases h⟩
    | cons d ds =>
      have hlt : c < d ↔ c.toNat < d.toNat := Iff.rfl
      have heq : c = d ↔ c.toNat = d.toNat := ⟨congrArg Char.toNat, Char.toNat_inj.mp⟩
      rw [List.cons_lt_cons_iff, List.map_cons, List.map_cons, List.compare_cons_cons,
        Ordering.then_eq_lt, Nat.compare_eq_lt, Nat.compare_eq_eq, ih, hlt, heq]

end Text

/-- Texts are compared by the numbers of their points. -/
lemma comparePoints_points (s t : String) :
    comparePoints (points s.toList) (points t.toList) = compare s t := by
  have hnumbers : ∀ cs : List Char, (points cs).map Point.toNat = cs.map Char.toNat := by
    intro cs
    rw [points, List.map_map]
    rfl
  have hlt : ∀ u v : String,
      u < v ↔ compare (u.toList.map Char.toNat) (v.toList.map Char.toNat) = .lt := by
    intro u v
    rw [String.lt_iff_toList_lt, Text.lt_iff_compare_toNat]
  rw [comparePoints, hnumbers, hnumbers]
  rcases lt_trichotomy s t with hst | rfl | hts
  · rw [(hlt s t).mp hst]
    exact (compareOfLessAndEq_eq_lt.mpr hst).symm
  · rw [Std.LawfulEqOrd.compare_eq_iff_eq.mpr rfl, Std.LawfulEqOrd.compare_eq_iff_eq.mpr rfl]
  · rw [Std.OrientedCmp.gt_of_lt ((hlt t s).mp hts)]
    exact (compare_gt_iff_gt.mpr hts).symm

/-! ## Speakers -/

namespace UncheckedAddress

/-- Whether no half of a surrogate pair stands in the address. -/
def hasBytes (a : UncheckedAddress) : Bool :=
  a.text.all fun p => p.char?.isSome

/-- An address can be compared exactly if it has bytes. -/
lemma isOk_sortKey (a : UncheckedAddress) : a.sortKey.isOk = a.hasBytes := by
  cases a with
  | unset => rfl
  | ip i => exact (Text.all_points _).symm
  | name ps =>
    rw [sortKey, hasBytes, text, ← Text.Utf8.isOk_encodeFrom 0 ps, Text.Utf8.encodePoints]
    cases Text.Utf8.encodeFrom 0 ps <;> rfl

/-- What the address is ordered by, and that of an unset one if it has no bytes. -/
def keyOrUnset (a : UncheckedAddress) : AddressKey :=
  a.sortKey.toOption.getD Address.unset.sortKey

/-- An address with bytes has a key. -/
lemma sortKey_eq_ok {a : UncheckedAddress} (h : a.hasBytes = true) :
    a.sortKey = .ok a.keyOrUnset := by
  have hok : a.sortKey.isOk = true := a.isOk_sortKey.trans h
  unfold keyOrUnset
  cases hkey : a.sortKey with
  | ok k => rfl
  | error f =>
    rw [hkey] at hok
    cases hok

end UncheckedAddress

/-! ## Calls -/

namespace UncheckedCall

variable {c : Column} {a b : UncheckedCall}

/-- Two calls can be compared unless it is by their speakers, and one of these has no bytes. -/
lemma isOk_compareUnchecked (a b : UncheckedCall) (c : Column) (aText bText : Option (List Point))
    (precision : ℕ) : (compareUnchecked a b c aText bText precision).isOk = true ↔
      (c = .initialSpeaker →
        a.initialSpeaker.hasBytes = true ∧ b.initialSpeaker.hasBytes = true) := by
  cases c with
  | initialSpeaker =>
    have hboth : ∀ x y : Except Text.Utf8.EncodeFault AddressKey,
        (x >>= fun k => y >>= fun l => pure (k.order l)).isOk = true ↔
          x.isOk = true ∧ y.isOk = true := by
      intro x y
      rcases x with f | k <;> rcases y with g | l <;>
        simp [bind, Except.bind, pure, Except.pure, Except.isOk, Except.toBool]
    rw [← UncheckedAddress.isOk_sortKey, ← UncheckedAddress.isOk_sortKey, ← hboth]
    exact ⟨fun h _ => h, fun h => h rfl⟩
  | startTime | stopTime | fromIdentity | toIdentity | protocol | packets | state | comments =>
    exact ⟨fun _ h => (by cases h), fun _ => rfl⟩

/-- Whether a call can be compared with others in a column. -/
def isComparable (c : Column) (a : UncheckedCall) : Bool :=
  match c with
  | .startTime => !a.start.isNaN
  | .stopTime => !a.stop.isNaN
  | .initialSpeaker => a.initialSpeaker.hasBytes
  | _ => true

/-- The order of two calls in a column. -/
def order (c : Column) (a b : UncheckedCall) : Except Text.Utf8.EncodeFault Ordering :=
  compareUnchecked a b c none none defaultPrecision

/-- What a call is compared by in a column. -/
def standing (c : Column) (a : UncheckedCall) : Standing (List ℕ) where
  start := a.start.rank
  stop := a.stop.rank
  callId := a.callId
  speaker := a.initialSpeaker.keyOrUnset
  packets := a.packetCount
  text := (a.cell c defaultPrecision).map Point.toNat

/-- The order of two calls in a column, times by their places. -/
def rankOrder (c : Column) (a b : UncheckedCall) : Ordering :=
  (a.standing c).order c (b.standing c)

instance (c : Column) : Std.TransCmp (rankOrder c) :=
  transCmp_comap (Standing.order c) (standing c)

/-- Calls that can be compared are compared by what they stand by. -/
theorem order_eq_rankOrder (ha : a.isComparable c = true) (hb : b.isComparable c = true) :
    order c a b = .ok (rankOrder c a b) := by
  cases c with
  | startTime =>
    have ha' : a.start.isNaN = false := by simpa [isComparable] using ha
    have hb' : b.start.isNaN = false := by simpa [isComparable] using hb
    rw [order, compareUnchecked, Double.order_eq ha' hb']
    rfl
  | stopTime =>
    have ha' : a.stop.isNaN = false := by simpa [isComparable] using ha
    have hb' : b.stop.isNaN = false := by simpa [isComparable] using hb
    rw [order, compareUnchecked, Double.order_eq ha' hb']
    rfl
  | initialSpeaker =>
    rw [order, compareUnchecked, UncheckedAddress.sortKey_eq_ok ha,
      UncheckedAddress.sortKey_eq_ok hb]
    rfl
  | fromIdentity | toIdentity | protocol | packets | state | comments => rfl

end UncheckedCall

/-! ## Calls with checked texts -/

/-- The key of an address is that of its text as points. -/
lemma Address.sortKey_unchecked (a : Address) : a.unchecked.sortKey = .ok a.sortKey := by
  cases a with
  | unset | ip => rfl
  | name s =>
    rw [unchecked, UncheckedAddress.sortKey, Text.Utf8.encodePoints, Text.Utf8.encodeFrom_points]
    rfl

namespace CallRecord

/-- The cells of a call show the same texts as points. -/
lemma cell_unchecked (a : CallRecord) (c : Column) (precision : ℕ) :
    a.unchecked.cell c precision = points (a.cell c precision).toList := by
  cases c with
  | initialSpeaker =>
    change a.initialSpeaker.unchecked.text = points a.initialSpeaker.text.toList
    cases a.initialSpeaker <;> rfl
  | protocol =>
    change a.unchecked.protocolText = points a.protocolText.toList
    have hempty : ∀ name : String, (points name.toList).isEmpty = name.isEmpty := by
      intro name
      rw [points, List.isEmpty_map, Bool.eq_iff_iff, List.isEmpty_iff, String.isEmpty_iff,
        String.toList_eq_nil_iff]
    unfold UncheckedCall.protocolText protocolText unchecked
    dsimp only
    cases a.protocol
    case common =>
      cases a.protocolName with
      | none => rfl
      | some name =>
        dsimp only [Option.map_some]
        rw [hempty]
        split <;> rfl
    all_goals rfl
  | comments =>
    change a.unchecked.commentText = points a.commentText.toList
    unfold UncheckedCall.commentText commentText unchecked
    dsimp only
    cases featureText? a.callState a.protocol a.payload <;> rfl
  | startTime | stopTime | fromIdentity | toIdentity | packets | state => rfl

/-- Calls are compared like calls with the same texts as points. -/
theorem compareUnchecked_unchecked (a b : CallRecord) (c : Column) (aText bText : Option String)
    (precision : ℕ) :
    compareUnchecked a.unchecked b.unchecked c (aText.map fun s => points s.toList)
        (bText.map fun s => points s.toList) precision =
      .ok (compareCalls a b c aText bText precision) := by
  have htext : ∀ (a : CallRecord) (text : Option String),
      (text.map fun s => points s.toList).getD (a.unchecked.cell c precision) =
        points (text.getD (a.cell c precision)).toList := by
    intro a text
    cases text with
    | none => exact cell_unchecked a c precision
    | some s => rfl
  cases c with
  | initialSpeaker =>
    have ha : a.unchecked.initialSpeaker.sortKey = _ := a.initialSpeaker.sortKey_unchecked
    have hb : b.unchecked.initialSpeaker.sortKey = _ := b.initialSpeaker.sortKey_unchecked
    rw [compareUnchecked, ha, hb]
    rfl
  | startTime | stopTime | packets => rfl
  | fromIdentity | toIdentity | protocol | state | comments =>
    rw [compareUnchecked, htext, htext, comparePoints_points]
    · rfl
    all_goals exact nofun

end CallRecord

end VoipCalls
