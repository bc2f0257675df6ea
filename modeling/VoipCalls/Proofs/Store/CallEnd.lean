import VoipCalls.Proofs.Store.History

/-!
# The end of a call

A call ends where the latest of its packets stands, and every packet is asked whether it is the
latest one so far.  A time that is not a number is never later than another one, so that a packet
without a proper time leaves the end of the call where it was.  But if the first packet of the call
has such a time, no other one is later than it either, and the end of the call stays where it is.

`CallRecord.FollowsTimes` says this of a record and the events that it amounts to, and
`Store.run_stop` of all runs of a store: a packet whose time is a number is followed by the end of
its call exactly if the call started at a number.  `Store.stop_poisonedStart` is a call that did
not.
-/

namespace VoipCalls

namespace CallRecord

variable {r : CallRecord} {es : List Event} {e : Event} {id : Int}

/-! ## One further event -/

/-- The end of a call moves to a further event unless that is earlier. -/
lemma stop_revisedBy (r : CallRecord) (e : Event) :
    (r.revisedBy e).stop = if r.stop.le e.seconds then e.seconds else r.stop := rfl

/-- A call that ends at a number still does so after a further event. -/
lemma isNaN_stop_revisedBy (hr : r.stop.isNaN = false) (e : Event) :
    (r.revisedBy e).stop.isNaN = false := by
  rw [stop_revisedBy]
  split
  · rename_i hle
    exact (Double.le_iff.mp hle).2.1
  · exact hr

/-- Such a call does not end earlier after a further event. -/
lemma stop_le_stop_revisedBy (hr : r.stop.isNaN = false) (e : Event) :
    r.stop.le (r.revisedBy e).stop = true := by
  rw [stop_revisedBy]
  split
  · assumption
  · exact Double.le_self hr

/-- And it does not end before that event. -/
lemma seconds_le_stop_revisedBy (hr : r.stop.isNaN = false) (he : e.seconds.isNaN = false) :
    e.seconds.le (r.revisedBy e).stop = true := by
  rw [stop_revisedBy]
  split
  · exact Double.le_self he
  · rename_i hle
    apply Double.le_of_lt
    apply Double.lt_of_le_eq_false hr he
    simpa using hle

/-- A call that does not end at a number is left by a further event as it ended before. -/
lemma stop_revisedBy_of_isNaN (hr : r.stop.isNaN = true) (e : Event) :
    (r.revisedBy e).stop = r.stop ∧ (r.revisedBy e).stopFrame = r.stopFrame := by
  have hle : r.stop.le e.seconds = false := by simp [Double.le, hr]
  constructor
  · rw [stop_revisedBy, hle]
    rfl
  · change (if r.stop.le e.seconds then some e.frameNumber else r.stopFrame) = r.stopFrame
    rw [hle]
    rfl

/-! ## All events -/

/-- How the end of a call follows the times of the events that its record amounts to. -/
structure FollowsTimes (r : CallRecord) (es : List Event) : Prop where
  /-- The call starts at its first event. -/
  start : ∃ first, es.head? = some first ∧ r.start = first.seconds
  /-- If that is a number, the call ends at a number. -/
  isNaN_stop : r.start.isNaN = false → r.stop.isNaN = false
  /-- Then no event whose time is a number is later than the end. -/
  seconds_le_stop : r.start.isNaN = false →
    ∀ e ∈ es, e.seconds.isNaN = false → e.seconds.le r.stop = true
  /-- If it is none, the call ends where it starts. -/
  stop_eq : r.start.isNaN = true → r.stop = r.start ∧ r.stopFrame = r.startFrame

/-- The record that an event opens follows the time of the event. -/
lemma FollowsTimes.first (id : Int) (e : Event) : (openedBy id e).FollowsTimes [e] where
  start := ⟨e, rfl, rfl⟩
  isNaN_stop h := h
  seconds_le_stop _ a ha hnumber := by
    rw [List.mem_singleton.mp ha] at hnumber ⊢
    exact Double.le_self hnumber
  stop_eq _ := ⟨rfl, rfl⟩

/-- A further event keeps it so. -/
lemma FollowsTimes.next (h : r.FollowsTimes es) (e : Event) :
    (r.revisedBy e).FollowsTimes (es ++ [e]) where
  start := by
    obtain ⟨first, hfirst, hstart⟩ := h.start
    refine ⟨first, ?_, hstart⟩
    rw [List.head?_append, hfirst]
    rfl
  isNaN_stop hstart := isNaN_stop_revisedBy (h.isNaN_stop hstart) e
  seconds_le_stop hstart a ha hnumber := by
    have hstop := h.isNaN_stop hstart
    rcases List.mem_append.mp ha with ha | ha
    · exact Double.le_trans (h.seconds_le_stop hstart a ha hnumber) (stop_le_stop_revisedBy hstop e)
    · rw [List.mem_singleton.mp ha] at hnumber ⊢
      exact seconds_le_stop_revisedBy hstop hnumber
  stop_eq hstart := by
    obtain ⟨hstop, hframe⟩ := h.stop_eq hstart
    have hnan : r.stop.isNaN = true := hstop ▸ hstart
    obtain ⟨hstop', hframe'⟩ := stop_revisedBy_of_isNaN hnan e
    exact ⟨hstop'.trans hstop, hframe'.trans hframe⟩

/-- Every record follows the times of its events. -/
theorem followsTimes_ofEvents (h : ofEvents id es = some r) : r.FollowsTimes es := by
  induction h using ofEvents_induction with
  | first e => exact .first id e
  | next es r e _ ih => exact ih.next e

/-- An event whose time is a number is not later than the end of its call, exactly if the call
started at a number. -/
lemma FollowsTimes.seconds_le_stop_iff (h : r.FollowsTimes es) (he : e ∈ es)
    (hnumber : e.seconds.isNaN = false) : e.seconds.le r.stop = true ↔ r.start.isNaN = false := by
  constructor
  · intro hle
    cases hstart : r.start.isNaN with
    | false => rfl
    | true =>
      have hstop : r.stop.isNaN = false := (Double.le_iff.mp hle).2.1
      rw [(h.stop_eq hstart).1, hstart] at hstop
      exact hstop
  · intro hstart
    exact h.seconds_le_stop hstart e he hnumber

end CallRecord

/-! ## The ends of the calls of a run -/

namespace Store

variable {ops later : List Operation} {e : Event} {id? : Option Int} {call : Int}

/-- An event that was stored belongs to the history of its call until the calls are forgotten. -/
lemma mem_history_of_upsert (haccepted : ((run {} ops).upsert e id?).1 = .ok call)
    (hlater : .clear ∉ later) : e ∈ history call (ops ++ .upsert e id? :: later) := by
  have hstored : e ∈ history call (ops ++ [.upsert e id?]) := by
    unfold history
    rw [storedSince_append]
    change e ∈ storedAfter _ call _ (.upsert e id?)
    rw [storedAfter_upsert, if_pos haccepted]
    exact List.mem_append_right _ (List.mem_singleton_self e)
  have hsplit : ops ++ .upsert e id? :: later = (ops ++ [.upsert e id?]) ++ later := by simp
  rw [hsplit]
  exact (prefix_history call _ hlater).subset hstored

/-- The record of a call that an event was stored for is found until the calls are forgotten. -/
lemma exists_find?_of_upsert (haccepted : ((run {} ops).upsert e id?).1 = .ok call)
    (hlater : .clear ∉ later) :
    ∃ r, (run {} (ops ++ .upsert e id? :: later)).find? call = some r := by
  obtain ⟨i, rfl⟩ : ∃ i : ℕ, call = i := by
    rcases (Coherent.empty.run ops).toSound.upsert_cases e id? with
      ⟨-, refusal, hu⟩ | ⟨-, -, hu⟩ | ⟨-, i, r, -, -, -, hu⟩
    · rw [hu] at haccepted
      cases haccepted
    · rw [hu] at haccepted
      exact ⟨_, (Except.ok.inj haccepted).symm⟩
    · rw [hu] at haccepted
      exact ⟨i, (Except.ok.inj haccepted).symm⟩
  have hmem := mem_history_of_upsert haccepted hlater
  have hcoherent := Coherent.empty.run (ops ++ .upsert e id? :: later)
  rw [hcoherent.find?_natCast, (holds_history i _).record, ← Option.isSome_iff_exists,
    ← Option.ne_none_iff_isSome, Ne, CallRecord.ofEvents_eq_none]
  exact List.ne_nil_of_mem hmem

/-- After every run, and whatever times its events have: once an event was stored whose time is a
number, the end of its call is not before that time, exactly if the first event of the call has a
number for its time too.  That is so right after the event and for as long as the calls are not
forgotten, and without an open scope it is so of the record that readers find. -/
theorem run_stop (ops later : List Operation)
    (haccepted : ((run {} ops).upsert e id?).1 = .ok call) (hnumber : e.seconds.isNaN = false)
    (hlater : .clear ∉ later) :
    ∃ r, (run {} (ops ++ .upsert e id? :: later)).find? call = some r ∧
      r.FollowsTimes (history call (ops ++ .upsert e id? :: later)) ∧
      (e.seconds.le r.stop = true ↔ r.start.isNaN = false) ∧
      (openScopes (ops ++ .upsert e id? :: later) = some 0 →
        (run {} (ops ++ .upsert e id? :: later)).get? call = some r) := by
  obtain ⟨r, hr⟩ := exists_find?_of_upsert haccepted hlater
  have hfollows := CallRecord.followsTimes_ofEvents (ofEvents_of_find? hr).1
  have hmem := mem_history_of_upsert haccepted hlater
  refine ⟨r, hr, hfollows, hfollows.seconds_le_stop_iff hmem hnumber, fun hscopes => ?_⟩
  obtain ⟨i, rfl, hi⟩ := (Coherent.empty.run _).exists_of_find? hr
  rw [get?_natCast, published_eq_working hscopes]
  exact hi

/-- An event that has the given time. -/
def timed (frame : Int) (time : Double) : Event where
  protocol := .mgcp
  frame := some frame
  time := some (.real time)

/-- A call starts at one second. -/
def properStart : List Operation :=
  [.upsert (timed 1 (.nearest false 1 1)) none]

/-- An event without a proper time follows, and then an earlier one. -/
def laterTimes : List Operation :=
  [.upsert (timed 3 .nan) (some 0), .upsert (timed 4 .zero) (some 0)]

/-- The call ends at the second event, which was stored in between. -/
theorem run_stop_properStart :
    ∃ r, (run {} (properStart ++ .upsert (timed 2 (.nearest false 5 1)) (some 0) ::
        laterTimes)).find? 0 = some r ∧
      (Double.nearest false 5 1).le r.stop = true ∧ r.stopFrame = some 2 := by
  have haccepted : ((run {} properStart).upsert (timed 2 (.nearest false 5 1)) (some 0)).1 =
      .ok 0 := by decide
  have hnumber : (timed 2 (.nearest false 5 1)).seconds.isNaN = false := by decide
  obtain ⟨r, hr, -, hiff, -⟩ := run_stop properStart laterTimes haccepted hnumber (by decide)
  have hrecord : ((run {} (properStart ++ .upsert (timed 2 (.nearest false 5 1)) (some 0) ::
      laterTimes)).find? 0).map (fun r => (r.start.isNaN, r.stopFrame)) =
        some (false, some 2) := by decide
  rw [hr, Option.map_some, Option.some_inj, Prod.mk.injEq] at hrecord
  exact ⟨r, hr, hiff.mpr hrecord.1, hrecord.2⟩

/-- A call whose first event has no proper time. -/
def poisonedStart : List Operation :=
  [.upsert (timed 1 .nan) none]

/-- An event of five seconds is stored for the call, but the call does not end there: neither five
seconds nor its own start is at most its end. -/
theorem stop_poisonedStart :
    ((run {} poisonedStart).upsert (timed 2 (.nearest false 5 1)) (some 0)).1 = .ok 0 ∧
    (Double.nearest false 5 1).isNaN = false ∧
    ∃ r, ((run {} poisonedStart).upsert (timed 2 (.nearest false 5 1)) (some 0)).2.get? 0 = some r ∧
      (Double.nearest false 5 1).le r.stop = false ∧ r.start.le r.stop = false ∧
      r.packetCount = 2 ∧ r.stopFrame = some 1 := by
  refine ⟨by decide, by decide, ?_⟩
  exact ⟨_, rfl, by decide, by decide, by decide, by decide⟩

end Store

end VoipCalls
