import VoipCalls.Proofs.Intake.Acceptance
import VoipCalls.Proofs.Store.Publishing
import VoipCalls.Session.Basic

/-!
# Runs of a session

A session is driven by its host in any order: captures are opened and closed, batches entered and
left, packets taken, the table drawn, and selections filtered for and shown.  What a run has
gathered are the events that were accepted since a capture was last opened
(`Session.acceptedSince`).

`Session.Follows` is the invariant of all runs: the intake follows from a log of these events, and
its store is coherent.  One operation keeps it (`Follows.perform`), so every run does
(`exists_follows_run`).
-/

namespace VoipCalls

namespace Session

/-! ## Operations and runs -/

/-- An operation on a session. -/
inductive Operation where
  | openCapture
  | closeCapture
  | enter
  | leave
  | packet (e : Event)
  | draw
  | refresh
  | activate (id : Int)
  | prepareFilter (selected : List Int)
  | showSequence (selected : List Int)
  | sortBy (c : Column) (descending : Bool)
deriving DecidableEq

/-- The session after an operation. -/
def perform (s : Session) : Operation → Session
  | .openCapture => s.openCapture
  | .closeCapture => s.closeCapture
  | .enter => s.enter
  | .leave => s.leave
  | .packet e => (s.packet e).session
  | .draw => s.draw.session
  | .refresh => s.refresh
  | .activate id => (s.activate id).session
  | .prepareFilter selected => (s.prepareFilter selected).session
  | .showSequence selected => (s.showSequence selected).session
  | .sortBy c descending => s.sortBy c descending

/-- The session after some operations. -/
def run (s : Session) (ops : List Operation) : Session :=
  ops.foldl perform s

/-- Whether some operations lead from a new session to a session. -/
def Reachable (s : Session) : Prop :=
  ∃ settings allFlows ops, (Session.new settings allFlows).run ops = s

/-- The events accepted since a capture was last opened, after an operation; `es` are those from
before it. -/
def acceptedAfter (s : Session) (es : List Event) : Operation → List Event
  | .openCapture => []
  | .packet e => if (s.packet e).value = .accepted then es ++ [e] else es
  | _ => es

/-- The events accepted since a capture was last opened, after some operations; `es` are those from
before them. -/
def acceptedSince (s : Session) (es : List Event) : List Operation → List Event
  | [] => es
  | op :: ops => (s.perform op).acceptedSince (s.acceptedAfter es op) ops

lemma run_append (s : Session) (ops ops' : List Operation) :
    s.run (ops ++ ops') = (s.run ops).run ops' :=
  List.foldl_append

/-! ## The invariant of all runs -/

/-- The intake follows from a log, and its store is coherent. -/
structure Follows (s : Session) (log : List Intake.Entry) : Prop where
  /-- The intake follows from the log. -/
  intake : s.intake.Follows log
  /-- The store is coherent. -/
  coherent : s.intake.store.Coherent

variable {s : Session} {log : List Intake.Entry}

/-- A new session follows the empty log. -/
lemma follows_new (settings : Settings) (allFlows : Option Bool) :
    (Session.new settings allFlows).Follows [] where
  intake := .empty ⟨rfl, rfl⟩ rfl rfl rfl rfl
  coherent := .empty

/-- A session that has just opened a capture follows the empty log. -/
lemma follows_openCapture (s : Session) : s.openCapture.Follows [] where
  intake := .empty ⟨rfl, rfl⟩ rfl rfl rfl rfl
  coherent := Store.coherent_clear _

/-- Bringing the events into order keeps them. -/
lemma perm_sortStable (x : SequenceIndex) : x.sortStable.items.Perm x.items := by
  unfold SequenceIndex.sortStable
  split
  · exact .refl _
  · exact Sorting.stableSort_perm _ _

/-- Bringing the events into order and hiding some of them changes neither which there are nor what
they would be if they were shown. -/
lemma perm_showOnly (x : SequenceIndex) (selected : List Int) :
    ((x.showOnly selected).items.map Intake.shown).Perm (x.items.map Intake.shown) := by
  have hvisible : (x.showOnly selected).items.map Intake.shown =
      x.sortStable.items.map Intake.shown := by
    unfold SequenceIndex.showOnly SequenceIndex.setVisibility
    rw [List.map_map]
    rfl
  rw [hvisible]
  exact (perm_sortStable x).map _

/-- The log after an operation. -/
def logAfter (s : Session) (log : List Intake.Entry) : Operation → List Intake.Entry
  | .openCapture => []
  | .packet e => s.intake.logAfter log e
  | _ => log

/-- A redraw changes the table, and in the intake at most that a redraw is due. -/
lemma intake_draw (s : Session) : ∃ redraw,
    s.draw.session.intake = { s.intake with tap := { s.intake.tap with redraw } } := by
  unfold draw Intake.draw
  split_ifs
  · exact ⟨false, rfl⟩
  · exact ⟨s.intake.tap.redraw, rfl⟩

/-- Going to a frame changes nothing. -/
lemma perform_activate (s : Session) (id : Int) : s.perform (.activate id) = s := by
  change (s.activate id).session = s
  unfold activate
  split <;> rfl

/-- Compiling a filter changes nothing. -/
lemma perform_prepareFilter (s : Session) (selected : List Int) :
    s.perform (.prepareFilter selected) = s := by
  change (s.prepareFilter selected).session = s
  unfold prepareFilter
  split_ifs <;> rfl

/-- Either nothing is handed over and nothing changes, or the diagram is handed over and the index
is prepared for it. -/
lemma showSequence_cases (s : Session) (selected : List Int) :
    ((s.showSequence selected).value = none ∧ (s.showSequence selected).session = s) ∨
    ((s.showSequence selected).value = some (s.intake.sequence.handoff selected) ∧
      (s.showSequence selected).session =
        { s with
          intake := { s.intake with sequence := s.intake.sequence.showOnly selected } }) := by
  unfold showSequence
  split
  · exact Or.inl ⟨rfl, rfl⟩
  · exact Or.inr ⟨rfl, rfl⟩

/-- Showing a selection changes the index at most. -/
lemma perform_showSequence (s : Session) (selected : List Int) :
    s.perform (.showSequence selected) = s ∨
    s.perform (.showSequence selected) =
      { s with intake := { s.intake with sequence := s.intake.sequence.showOnly selected } } := by
  rcases s.showSequence_cases selected with ⟨-, hsession⟩ | ⟨-, hsession⟩
  · exact Or.inl hsession
  · exact Or.inr hsession

/-- Every operation keeps the invariant. -/
theorem Follows.perform (h : s.Follows log) (op : Operation) :
    (s.perform op).Follows (s.logAfter log op) := by
  cases op with
  | openCapture => exact follows_openCapture s
  | closeCapture => exact ⟨h.intake.congr (.refl _) rfl rfl (.refl _), h.coherent⟩
  | enter =>
    exact ⟨h.intake.congr (Store.sameCalls_enter _) rfl rfl (.refl _), h.coherent.enter⟩
  | leave =>
    exact ⟨h.intake.congr (Store.sameCalls_leave _) rfl rfl (.refl _), h.coherent.leave⟩
  | packet e =>
    refine ⟨h.intake.packet e, ?_⟩
    change (s.intake.packet e).2.store.Coherent
    rcases h.intake.store_packet e with hs | hs <;> rw [hs]
    · exact h.coherent
    · exact h.coherent.upsert e _
  | draw =>
    obtain ⟨redraw, hx⟩ := s.intake_draw
    refine ⟨?_, ?_⟩
    · change s.draw.session.intake.Follows log
      rw [hx]
      exact h.intake.congr (.refl _) rfl rfl (.refl _)
    · change s.draw.session.intake.store.Coherent
      rw [hx]
      exact h.coherent
  | refresh => exact ⟨h.intake, h.coherent⟩
  | activate id =>
    rw [perform_activate]
    exact h
  | prepareFilter selected =>
    rw [perform_prepareFilter]
    exact h
  | showSequence selected =>
    rcases s.perform_showSequence selected with hsession | hsession <;> rw [hsession]
    · exact h
    · exact ⟨h.intake.congr (.refl _) rfl rfl (perm_showOnly _ _), h.coherent⟩
  | sortBy c descending => exact ⟨h.intake, h.coherent⟩

/-- The entries of the log are the accepted events. -/
lemma Follows.map_logAfter (h : s.Follows log) (op : Operation) :
    (s.logAfter log op).map (·.event) = s.acceptedAfter (log.map (·.event)) op := by
  cases op with
  | packet e =>
    change (s.intake.logAfter log e).map _ = if (s.intake.packet e).1 = .accepted then _ else _
    unfold Intake.logAfter
    rcases h.intake.packet_cases e with ⟨ha, hx⟩ | ⟨ha, hne, -⟩
    · rw [if_pos ha, if_pos (by rw [hx]), List.map_append]
      rfl
    · rw [if_neg (by rw [ha]; exact Bool.false_ne_true), if_neg hne]
  | openCapture => rfl
  | closeCapture | enter | leave | draw | refresh | activate | prepareFilter | showSequence
  | sortBy => rfl

/-- The log only grows until a capture is opened. -/
lemma prefix_logAfter (s : Session) (log : List Intake.Entry) {op : Operation}
    (hop : op ≠ .openCapture) : log <+: s.logAfter log op := by
  cases op with
  | packet e =>
    change log <+: s.intake.logAfter log e
    unfold Intake.logAfter
    split
    · exact List.prefix_append _ _
    · exact List.prefix_refl _
  | openCapture => exact absurd rfl hop
  | closeCapture | enter | leave | draw | refresh | activate | prepareFilter | showSequence
  | sortBy => exact List.prefix_refl _

/-- Every run keeps the invariant, with a log of the accepted events that only grows until a capture
is opened. -/
theorem Follows.exists_run (h : s.Follows log) (ops : List Operation) :
    ∃ log', (s.run ops).Follows log' ∧
      log'.map (·.event) = s.acceptedSince (log.map (·.event)) ops ∧
      (.openCapture ∉ ops → log <+: log') := by
  induction ops generalizing s log with
  | nil => exact ⟨log, h, rfl, fun _ => List.prefix_refl _⟩
  | cons op ops ih =>
    obtain ⟨log', hlog', hmap, hgrows⟩ := ih (h.perform op)
    refine ⟨log', hlog', ?_, fun hout => ?_⟩
    · rw [hmap, h.map_logAfter]
      rfl
    · have hop : op ≠ .openCapture := fun heq => hout (by rw [heq]; exact List.mem_cons_self)
      have hops : .openCapture ∉ ops := fun hin => hout (List.mem_cons_of_mem _ hin)
      exact (prefix_logAfter s log hop).trans (hgrows hops)

/-- Every run of a new session follows from a log of the accepted events. -/
theorem exists_follows_run (settings : Settings) (allFlows : Option Bool)
    (ops : List Operation) :
    ∃ log, ((Session.new settings allFlows).run ops).Follows log ∧
      log.map (·.event) = (Session.new settings allFlows).acceptedSince [] ops := by
  obtain ⟨log, hlog, hmap, -⟩ := (follows_new settings allFlows).exists_run ops
  exact ⟨log, hlog, hmap⟩

/-- Every reachable session follows from a log. -/
lemma Reachable.exists_follows (h : s.Reachable) : ∃ log, s.Follows log := by
  obtain ⟨settings, allFlows, ops, rfl⟩ := h
  obtain ⟨log, hlog, -⟩ := exists_follows_run settings allFlows ops
  exact ⟨log, hlog⟩

end Session

end VoipCalls
