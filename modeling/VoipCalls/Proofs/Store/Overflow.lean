import VoipCalls.Proofs.Number.Range
import VoipCalls.Proofs.Store.Numbering

/-!
# Times beyond the range of doubles

An event can be refused because its time is a whole number that is too large for a double.  The
store looks at this last: an event is refused for its time exactly if it would have been stored at
another one (`Store.upsert_timeOverflow_iff`).
-/

namespace VoipCalls

/-! ## Events at another time -/

/-- Whether the time of an event is a whole number that is too large for a double. -/
def Event.Overflows (e : Event) : Prop :=
  ∃ n : Int, e.time = some (.whole n) ∧ Double.tooLarge ≤ n.natAbs

/-- The same event at another time. -/
def Event.at (e : Event) (t : Double) : Event :=
  { e with time := some (.real t) }

@[simp] lemma Event.protocol_at (e : Event) (t : Double) : (e.at t).protocol = e.protocol := rfl

@[simp] lemma Event.frame_at (e : Event) (t : Double) : (e.at t).frame = e.frame := rfl

@[simp] lemma Event.payload_at (e : Event) (t : Double) : (e.at t).payload = e.payload := rfl

@[simp] lemma RawTime.toDouble?_real (t : Double) : (RawTime.real t).toDouble? = some t := rfl

/-- A time has no double exactly if it is a whole number that is too large. -/
lemma RawTime.toDouble?_eq_none_iff {raw : RawTime} :
    raw.toDouble? = none ↔ ∃ n : Int, raw = .whole n ∧ Double.tooLarge ≤ n.natAbs := by
  cases raw with
  | whole n =>
    change Double.ofInt? n = none ↔ _
    rw [Double.ofInt?_eq_none_iff]
    constructor
    · exact fun h => ⟨n, rfl, h⟩
    · rintro ⟨n, ⟨⟩, h⟩
      exact h
  | real x => simp [RawTime.toDouble?]

namespace Store

variable {s : Store} {e : Event}

/-! ## The time is looked at last -/

/-- The time of an event has no part in whether its payload clashes. -/
@[simp] lemma payloadClashes_at (r : CallRecord) (e : Event) (t : Double) :
    payloadClashes r (e.at t) = payloadClashes r e := rfl

/-- A new call is refused for its time exactly if it would be opened at another one. -/
lemma opening_timeOverflow_iff {frame : Int} {raw : RawTime} (t : Double) :
    s.opening e frame raw = .error .timeOverflow ↔
      raw.toDouble? = none ∧ ∃ r, s.opening (e.at t) frame (.real t) = .ok r := by
  unfold opening
  by_cases hkind : (e.payload.getD e.protocol.emptyPayload).kind = e.protocol.payloadKind
  · cases hd : raw.toDouble? <;> simp [hkind]
  · simp [hkind]

/-- A revision is refused for its time exactly if it would be made at another one. -/
lemma revision_timeOverflow_iff {id frame : Int} {raw : RawTime} (t : Double) :
    s.revision e id frame raw = .error .timeOverflow ↔
      raw.toDouble? = none ∧ ∃ r, s.revision (e.at t) id frame (.real t) = .ok r := by
  unfold revision
  cases hr : s.find? id with
  | none => simp
  | some r =>
    by_cases hprot : r.protocol = e.protocol
    · cases hclash : payloadClashes r e with
      | true => simp [hprot, hclash]
      | false => cases hd : raw.toDouble? <;> simp [hprot, hclash]
    · simp [hprot]

/-- An event is decided against for its time exactly if the time is too large for a double and the
decision would be for the event at another time. -/
lemma decision_timeOverflow_iff {id? : Option Int} (t : Double) :
    s.decision e id? = .error .timeOverflow ↔
      e.Overflows ∧ ∃ r, s.decision (e.at t) id? = .ok r := by
  unfold decision
  cases hframe : e.frame with
  | none => simp [hframe]
  | some frame =>
    cases htime : e.time with
    | none => simp [Event.Overflows, htime]
    | some raw =>
      have hover : e.Overflows ↔ raw.toDouble? = none := by
        rw [Event.Overflows, htime, RawTime.toDouble?_eq_none_iff]
        simp
      have hat : (e.at t).time = some (.real t) := rfl
      rw [hover, Event.frame_at, hframe, hat]
      cases id? with
      | none => exact opening_timeOverflow_iff t
      | some id => exact revision_timeOverflow_iff t

/-- An event is refused for its time exactly if the time is too large for a double and the event
would be stored at another one. -/
theorem upsert_timeOverflow_iff (s : Store) (e : Event) (id? : Option Int) (t : Double) :
    (s.upsert e id?).1 = .error .timeOverflow ↔
      e.Overflows ∧ ∃ call, (s.upsert (e.at t) id?).1 = .ok call := by
  rw [upsert_fst, upsert_fst, map_eq_error, exists_map_eq_ok]
  exact decision_timeOverflow_iff t

end Store

end VoipCalls
