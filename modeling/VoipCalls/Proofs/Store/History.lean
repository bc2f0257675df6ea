import VoipCalls.Proofs.Call.Outcome
import VoipCalls.Proofs.Call.Summary
import VoipCalls.Proofs.Store.Batches

/-!
# The history of a call

The history of a call in a run of a store are the events that were stored for it, which is to say
that they were answered with its number, since the calls were last forgotten
(`Store.history`).  Whatever else a run does, and whatever events are refused on the way, the record
of a call amounts to its history and to nothing else (`Store.find?_run`).

So everything that is known of the record of a list of events is known of the records of a run: what
its fields say (`Store.run_summarises`), and what state the call is in (`Store.run_outcome`).
-/

namespace VoipCalls

namespace Store

/-! ## Histories -/

/-- The events stored for a call after an operation; `es` are those from before it. -/
def storedAfter (s : Store) (call : Int) (es : List Event) : Operation → List Event
  | .upsert e id? => if (s.upsert e id?).1 = .ok call then es ++ [e] else es
  | .clear => []
  | .enter | .leave => es

/-- The events stored for a call after some operations; `es` are those from before them. -/
def storedSince (s : Store) (call : Int) (es : List Event) : List Operation → List Event
  | [] => es
  | op :: ops => (s.perform op).storedSince call (s.storedAfter call es op) ops

/-- The events that a run of a new store has stored for a call since the calls were last
forgotten. -/
def history (call : Int) (ops : List Operation) : List Event :=
  storedSince {} call [] ops

variable {s : Store} {ops : List Operation} {call : Int} {es : List Event}

/-- An event is stored for the call that it is answered with. -/
lemma storedAfter_upsert (s : Store) (call : Int) (es : List Event) (e : Event)
    (id? : Option Int) : s.storedAfter call es (.upsert e id?) =
      if (s.upsert e id?).1 = .ok call then es ++ [e] else es := rfl

/-- A history goes on where it was left. -/
lemma storedSince_append (s : Store) (call : Int) (es : List Event) (ops later : List Operation) :
    s.storedSince call es (ops ++ later) =
      (run s ops).storedSince call (s.storedSince call es ops) later := by
  induction ops generalizing s es with
  | nil => rfl
  | cons op ops ih => exact ih (s.perform op) (s.storedAfter call es op)

/-- A history only grows until the calls are forgotten. -/
lemma prefix_storedSince (s : Store) (call : Int) (es : List Event) (hops : .clear ∉ ops) :
    es <+: s.storedSince call es ops := by
  induction ops generalizing s es with
  | nil => exact List.prefix_refl es
  | cons op ops ih =>
    have hstep : es <+: s.storedAfter call es op := by
      cases op with
      | upsert e id? =>
        rw [storedAfter_upsert]
        split
        · exact List.prefix_append es [e]
        · exact List.prefix_refl es
      | clear => exact absurd List.mem_cons_self hops
      | enter | leave => exact List.prefix_refl es
    exact hstep.trans (ih (s.perform op) _ fun hin => hops (List.mem_cons_of_mem op hin))

lemma prefix_history (call : Int) (ops : List Operation) {later : List Operation}
    (hlater : .clear ∉ later) : history call ops <+: history call (ops ++ later) := by
  unfold history
  rw [storedSince_append]
  exact prefix_storedSince _ call _ hlater

/-! ## A record amounts to the history of its call -/

/-- The record of a call amounts to some storable events. -/
structure Holds (s : Store) (i : ℕ) (es : List Event) : Prop where
  /-- The record at the place amounts to the events. -/
  record : s.working[i]? = CallRecord.ofEvents i es
  /-- The events are storable. -/
  storable : ∀ e ∈ es, e.isStorable = true

/-- Every operation adds to the record of a call what it stores for it. -/
lemma Holds.perform {i : ℕ} (hs : s.Sound) (h : s.Holds i es) (op : Operation) :
    (s.perform op).Holds i (s.storedAfter i es op) := by
  cases op with
  | upsert e id? =>
    have hplace := hs.getElem?_upsert e id? i
    rw [storedAfter_upsert]
    split
    · rename_i hanswer
      refine ⟨?_, fun a ha => ?_⟩
      · rw [CallRecord.ofEvents_concat, ← h.record]
        exact hplace.trans (if_pos hanswer)
      · rcases List.mem_append.mp ha with ha | ha
        · exact h.storable a ha
        · rw [List.mem_singleton.mp ha]
          exact hs.isStorable_of_upsert hanswer
    · rename_i hanswer
      exact ⟨(hplace.trans (if_neg hanswer)).trans h.record, h.storable⟩
  | clear => exact ⟨rfl, fun a ha => absurd ha List.not_mem_nil⟩
  | enter => exact ⟨h.record, h.storable⟩
  | leave =>
    refine ⟨?_, h.storable⟩
    change s.leave.working[i]? = _
    rw [working_leave]
    exact h.record

/-- Every run adds to the record of a call what it stores for it. -/
lemma Holds.run {i : ℕ} (hs : s.Coherent) (h : s.Holds i es) (ops : List Operation) :
    (run s ops).Holds i (s.storedSince i es ops) := by
  induction ops generalizing s es with
  | nil => exact h
  | cons op ops ih => exact ih (hs.run [op]) (h.perform hs.toSound op)

/-- The record of a call amounts to its history. -/
theorem holds_history (i : ℕ) (ops : List Operation) :
    (run {} ops).Holds i (history i ops) :=
  Holds.run .empty ⟨rfl, fun _ he => absurd he List.not_mem_nil⟩ ops

/-- The record that is found for a number amounts to the history of the call, which is made of
storable events. -/
theorem ofEvents_of_find? {id : Int} {r : CallRecord} (hr : (run {} ops).find? id = some r) :
    CallRecord.ofEvents id (history id ops) = some r ∧
      ∀ e ∈ history id ops, e.isStorable = true := by
  obtain ⟨i, rfl, hi⟩ := (Coherent.empty.run ops).exists_of_find? hr
  have h := holds_history i ops
  exact ⟨h.record.symm.trans hi, h.storable⟩

/-- A call that was created stays until the calls are forgotten. -/
lemma exists_later {id : Int} {r : CallRecord} (hr : (run {} ops).find? id = some r)
    {later : List Operation} (hlater : .clear ∉ later) :
    ∃ r', (run {} (ops ++ later)).find? id = some r' := by
  obtain ⟨i, rfl, -⟩ := (Coherent.empty.run ops).exists_of_find? hr
  have hne : history i ops ≠ [] := by
    intro hnil
    have hnone := (ofEvents_of_find? hr).1
    rw [hnil] at hnone
    cases hnone
  rw [(Coherent.empty.run (ops ++ later)).find?_natCast, (holds_history i (ops ++ later)).record,
    ← Option.isSome_iff_exists, ← Option.ne_none_iff_isSome, Ne, CallRecord.ofEvents_eq_none]
  exact fun hnil => hne (List.prefix_nil.mp (hnil ▸ prefix_history i ops hlater))

/-! ## What the records of a run say -/

/-- After every run, each record says of the history of its call what `CallRecord.Summarises`
states, and without an open scope that is the record that readers find.  If the times are numbers,
no call ends before it starts, and no operation but forgetting the calls lets one end earlier. -/
theorem run_summarises (ops : List Operation) {id : Int} {r : CallRecord}
    (hr : (run {} ops).find? id = some r) :
    r.Summarises (history id ops) ∧
    (∀ e ∈ history id ops, e.isStorable = true) ∧
    (openScopes ops = some 0 → (run {} ops).get? id = some r) ∧
    ((∀ e ∈ history id ops, e.seconds.isNaN = false) → r.start.le r.stop = true) ∧
    ∀ later, .clear ∉ later → ∃ r', (run {} (ops ++ later)).find? id = some r' ∧
      ((∀ e ∈ history id (ops ++ later), e.seconds.isNaN = false) → r.stop.le r'.stop = true) := by
  obtain ⟨hevents, hstorable⟩ := ofEvents_of_find? hr
  have hsummary := CallRecord.summarises_ofEvents hevents hstorable
  refine ⟨hsummary, hstorable, fun hscopes => ?_, hsummary.start_le_stop, fun later hlater => ?_⟩
  · obtain ⟨i, rfl, hi⟩ := (Coherent.empty.run ops).exists_of_find? hr
    rw [get?_natCast, published_eq_working hscopes]
    exact hi
  · obtain ⟨r', hr'⟩ := exists_later hr hlater
    obtain ⟨hevents', hstorable'⟩ := ofEvents_of_find? hr'
    have hsummary' := CallRecord.summarises_ofEvents hevents' hstorable'
    exact ⟨r', hr', hsummary.stop_le_stop hsummary' (prefix_history id ops hlater).subset⟩

/-- A call is revised by an event of the same time, by an earlier one that offers a caller and a
comment, and after one of another protocol was refused by one that offers others. -/
def revisedCall : List Operation :=
  [.upsert { protocol := .mgcp, frame := some 3, time := some (.whole 2), fromIdentity := some "" }
      none,
    .upsert { protocol := .mgcp, frame := some 5, time := some (.whole 2) } (some 0), .enter,
    .upsert { protocol := .mgcp, frame := some 6, time := some (.whole 1), fromIdentity := some "a",
              comment := some "b" } (some 0),
    .upsert { protocol := .h248, frame := some 7, time := some (.whole 9) } (some 0),
    .upsert { protocol := .mgcp, frame := some 8, time := some (.whole 1), fromIdentity := some "c",
              comment := some "d" } (some 0)]

/-- The record of the call summarises the four events that were stored, also while its batch is
open. -/
theorem run_revisedCall :
    (∃ r, (run {} revisedCall).find? 0 = some r ∧ r.Summarises (history 0 revisedCall) ∧
      r.start.le r.stop = true) ∧
    (history 0 revisedCall).map (·.frame) = [some 3, some 5, some 6, some 8] ∧
    ((run {} revisedCall).find? 0).map
      (fun r => (r.startFrame, r.stopFrame, r.fromIdentity, r.comment)) =
        some (some 3, some 5, "a", "d") := by
  have hsome : ((run {} revisedCall).find? 0).isSome = true := by decide
  obtain ⟨r, hr⟩ := Option.isSome_iff_exists.mp hsome
  obtain ⟨hsummary, -, -, hends, -⟩ := run_summarises revisedCall hr
  exact ⟨⟨r, hr, hsummary, hends (by decide)⟩, by decide, by decide⟩

/-- A call of no particular protocol is opened with an empty name of its own. -/
def emptyName : List Operation :=
  [.upsert
    { protocol := .common, frame := some 1, time := some (.whole 0), protocolName := some "" } none]

/-- The name of a protocol need not be missing where none is offered: it may be an empty text. -/
theorem protocolName_emptyName :
    ¬ ∀ (ops : List Operation) (id : Int) (r : CallRecord), (run {} ops).find? id = some r →
      r.protocolName = (offered (·.protocolName) (history id ops)).head? := by
  intro h
  have hsome : ((run {} emptyName).find? 0).isSome = true := by decide
  obtain ⟨r, hr⟩ := Option.isSome_iff_exists.mp hsome
  have hname : ((run {} emptyName).find? 0).map (·.protocolName) = some (some "") := by decide
  have hnone : (offered (·.protocolName) (history 0 emptyName)).head? = none := by decide
  rw [hr, Option.map_some, h emptyName 0 r hr, hnone] at hname
  cases hname

/-- After every run, each call is in the state that the proposals of its history lead to, and a call
that has ended does not come back to life until the calls are forgotten. -/
theorem run_outcome (ops : List Operation) {id : Int} {r : CallRecord}
    (hr : (run {} ops).find? id = some r) :
    CallState.Outcome ((history id ops).filterMap (·.callState)) r.callState ∧
    ((∃ e ∈ history id ops, ∃ p, e.callState = some p ∧ p.isTerminal = true) →
      ∀ later, .clear ∉ later → ∃ r', (run {} (ops ++ later)).find? id = some r' ∧
        r'.callState.isTerminal = true) := by
  refine ⟨CallRecord.outcome_ofEvents (ofEvents_of_find? hr).1, ?_⟩
  rintro ⟨e, he, p, hp, hterminal⟩ later hlater
  obtain ⟨r', hr'⟩ := exists_later hr hlater
  have houtcome := CallRecord.outcome_ofEvents (ofEvents_of_find? hr').1
  have hproposed : p ∈ (history id (ops ++ later)).filterMap (·.callState) :=
    List.mem_filterMap.mpr ⟨e, (prefix_history id ops hlater).subset he, hp⟩
  have hending : p ∈ CallState.endings ((history id (ops ++ later)).filterMap (·.callState)) :=
    CallState.mem_endings.mpr ⟨hproposed, hterminal⟩
  exact ⟨r', hr', houtcome.ended.mpr (List.ne_nil_of_mem hending)⟩

/-- A setup is cancelled and then answered by its final error response. -/
def cancelledSetup : List Operation :=
  [.upsert { protocol := .sip, frame := some 1, time := some (.whole 0),
             callState := some .callSetup } none,
    .upsert { protocol := .sip, frame := some 2, time := some (.whole 1) } (some 0),
    .upsert { protocol := .sip, frame := some 3, time := some (.whole 1),
              callState := some .cancelled } (some 0),
    .upsert { protocol := .sip, frame := some 4, time := some (.whole 2),
              callState := some .rejected } (some 0)]

/-- A call goes back to ringing. -/
def backToRinging : List Operation :=
  [.upsert { protocol := .sip, frame := some 5, time := some (.whole 3),
             callState := some .ringing } (some 0)]

/-- The setup is cancelled, and it does not go back to ringing. -/
theorem run_cancelledSetup :
    (∃ r, (run {} cancelledSetup).find? 0 = some r ∧
      CallState.Outcome [.callSetup, .cancelled, .rejected] r.callState) ∧
    (∃ r, (run {} (cancelledSetup ++ backToRinging)).find? 0 = some r ∧
      r.callState.isTerminal = true) ∧
    ((run {} (cancelledSetup ++ backToRinging)).find? 0).map (·.callState) =
      some .cancelled := by
  have hsome : ((run {} cancelledSetup).find? 0).isSome = true := by decide
  obtain ⟨r, hr⟩ := Option.isSome_iff_exists.mp hsome
  have hproposed : (history 0 cancelledSetup).filterMap (·.callState) =
      [.callSetup, .cancelled, .rejected] := by decide
  obtain ⟨houtcome, hforever⟩ := run_outcome cancelledSetup hr
  rw [hproposed] at houtcome
  have hended : ∃ e ∈ history 0 cancelledSetup, ∃ p, e.callState = some p ∧
      p.isTerminal = true := by
    refine ⟨{ protocol := .sip, frame := some 3, time := some (.whole 1),
              callState := some .cancelled }, by decide, .cancelled, rfl, rfl⟩
  exact ⟨⟨r, hr, houtcome⟩, hforever hended backToRinging (by decide), by decide⟩

end Store

end VoipCalls
