import VoipCalls.Proofs.Intake.Refusal
import VoipCalls.Proofs.Session.Diagram
import VoipCalls.Proofs.Store.Batches
import VoipCalls.Proofs.Table.Rows

/-!
# Redraws

Packets are taken, published and drawn by three parts of a session, at different times: a packet
sets a flag, leaving the outermost batch publishes, and a redraw clears the flag and draws what is
published.  No redraw is lost on the way.

`Session.undrawnSince` are the events that were accepted since the last redraw that took place, or
since a capture was opened.  The invariant `Session.Draws` says that the flag stands for these
events, and that without them the table is up to date.  One operation keeps it (`Draws.perform`), so
that `Session.run_redraw` holds after every run.
-/

namespace VoipCalls

/-- The same intake with no redraw due. -/
def Intake.quiet (x : Intake) : Intake :=
  { x with tap := { x.tap with redraw := false } }

namespace Session

/-! ## What has not been drawn -/

/-- The events accepted since the last opening of a capture and the last redraw that took place,
after an operation; `es` are those from before it. -/
def undrawnAfter (s : Session) (es : List Event) : Operation → List Event
  | .openCapture => []
  | .packet e => if (s.packet e).value = .accepted then es ++ [e] else es
  | .draw => if s.draw.value then [] else es
  | _ => es

/-- The events accepted since the last opening of a capture and the last redraw that took place,
after some operations; `es` are those from before them. -/
def undrawnSince (s : Session) (es : List Event) : List Operation → List Event
  | [] => es
  | op :: ops => (s.perform op).undrawnSince (s.undrawnAfter es op) ops

/-- Everything that was gathered is published, and the rows of the table are the published records,
each of them drawn. -/
structure UpToDate (s : Session) : Prop where
  /-- Readers see the working records. -/
  published : s.intake.store.published = s.intake.store.working
  /-- The table shows what readers see. -/
  rows : s.table.rows = Table.drawRows s.table.precision s.intake.store.published

/-- While the tap is attached, a redraw is due exactly if there are events that were not drawn, and
if there are none the table is up to date. -/
structure Draws (s : Session) (undrawn : List Event) : Prop where
  /-- The rows are presented in some order. -/
  placed : s.table.Placed
  /-- The flag stands for the events that were not drawn. -/
  flag : s.intake.tap.attached = true → (s.intake.tap.redraw = true ↔ undrawn ≠ [])
  /-- Without the flag the table is up to date. -/
  current : s.intake.tap.attached = true → s.intake.tap.redraw = false → s.UpToDate

variable {s : Session} {undrawn : List Event}

/-! ## Drawing -/

/-- Either a redraw is due, and the table is drawn outside of all batches, or nothing happens, and
if the tap is attached and no batch is open, that is because nothing was accepted. -/
lemma draw_cases (s : Session) :
    (s.draw.value = true ∧ s.intake.store.depth = 0 ∧
      s.draw.session = { s with intake := s.intake.quiet }.refresh) ∨
    (s.draw.value = false ∧ s.draw.session = s ∧
      (s.intake.tap.attached = true → s.intake.store.depth = 0 → s.intake.tap.redraw = false)) := by
  unfold draw Intake.draw
  split_ifs with hdue
  · simp only [Bool.and_eq_true, Bool.not_eq_true', Store.inBatch, decide_eq_false_iff_not,
      Nat.not_lt, Nat.le_zero] at hdue
    exact Or.inl ⟨rfl, hdue.2, rfl⟩
  · refine Or.inr ⟨rfl, rfl, fun hattached hdepth => ?_⟩
    simpa [hattached, Store.inBatch, hdepth] using hdue

/-- Drawing the table makes its rows the published records, each of them drawn. -/
lemma rows_refresh (s : Session) :
    s.refresh.table.rows =
      Table.drawRows s.refresh.table.precision s.refresh.intake.store.published := by
  unfold refresh
  dsimp only
  rw [Table.rows_refresh, Table.precision_refresh]

/-- When the table is drawn outside of all batches, it is up to date. -/
lemma Follows.upToDate_refresh {log : List Intake.Entry} (h : s.Follows log)
    (hdepth : s.intake.store.depth = 0) : s.refresh.UpToDate where
  published := (h.coherent.settled hdepth).1
  rows := s.rows_refresh

/-- Leaving a batch publishes nothing that was published already. -/
lemma Follows.published_leave {log : List Intake.Entry} (h : s.Follows log)
    (hsame : s.intake.store.published = s.intake.store.working) :
    s.intake.store.leave.published = s.intake.store.working := by
  by_cases hdepth : s.intake.store.leave.depth = 0
  · rw [(h.coherent.leave.settled hdepth).1, Store.working_leave]
  · rw [Store.depth_leave] at hdepth
    unfold Store.leave
    rw [Store.settle_eq_self (Nat.pos_of_ne_zero hdepth)]
    exact hsame

/-! ## The invariant -/

/-- If the table is up to date and no redraw is due, there is nothing to draw. -/
lemma UpToDate.draws (h : s.UpToDate) (hplaced : s.table.Placed)
    (hflag : s.intake.tap.redraw = false) : s.Draws [] where
  placed := hplaced
  flag _ := by simp [hflag]
  current _ _ := h

/-- There is nothing to draw in a session that has just opened a capture. -/
lemma draws_openCapture (s : Session) : s.openCapture.Draws [] :=
  UpToDate.draws ⟨rfl, rfl⟩ (Table.placed_of_isEmpty rfl rfl) rfl

/-- The invariant looks at nothing but the table, the records, and two flags of the tap. -/
lemma Draws.congr (h : s.Draws undrawn) {t : Session} (htable : t.table = s.table)
    (hworking : t.intake.store.working = s.intake.store.working)
    (hpublished : t.intake.store.published = s.intake.store.published)
    (hattached : t.intake.tap.attached = s.intake.tap.attached)
    (hflag : t.intake.tap.redraw = s.intake.tap.redraw) : t.Draws undrawn where
  placed := by
    rw [htable]
    exact h.placed
  flag := by
    rw [hattached, hflag]
    exact h.flag
  current := by
    rw [hattached, hflag]
    intro hatt hclear
    have hcurrent := h.current hatt hclear
    refine ⟨?_, ?_⟩
    · rw [hpublished, hworking]
      exact hcurrent.published
    · rw [htable, hpublished]
      exact hcurrent.rows

/-- An accepted event is one that was not drawn, and any other event leaves the flag and the store
alone. -/
lemma Draws.packet (h : s.Draws undrawn) (e : Event) :
    (s.packet e).session.Draws (s.undrawnAfter undrawn (.packet e)) := by
  change Draws { s with intake := (s.intake.packet e).2 }
    (if (s.intake.packet e).1 = .accepted then undrawn ++ [e] else undrawn)
  by_cases haccepted : (s.intake.packet e).1 = .accepted
  · obtain ⟨-, call, -, hx⟩ := Intake.exists_of_accepted haccepted
    rw [if_pos haccepted, hx]
    refine ⟨h.placed, fun _ => ⟨fun _ => by simp, fun _ => rfl⟩, fun _ hflag => ?_⟩
    cases hflag
  · obtain ⟨malformed, ignored, hx⟩ := Intake.exists_counting haccepted
    rw [if_neg haccepted, hx]
    exact h.congr rfl rfl rfl rfl rfl

/-- Every operation keeps the invariant. -/
theorem Draws.perform (h : s.Draws undrawn) {log : List Intake.Entry} (hlog : s.Follows log)
    (op : Operation) : (s.perform op).Draws (s.undrawnAfter undrawn op) := by
  cases op with
  | openCapture => exact draws_openCapture s
  | closeCapture =>
    refine ⟨h.placed, fun hattached => ?_, fun hattached => ?_⟩ <;>
      exact absurd hattached Bool.false_ne_true
  | enter => exact h.congr rfl rfl rfl rfl rfl
  | leave =>
    refine ⟨h.placed, h.flag, fun hattached hflag => ?_⟩
    have hcurrent := h.current hattached hflag
    have hsame := hlog.published_leave hcurrent.published
    refine ⟨hsame.trans (Store.working_leave _).symm, ?_⟩
    change s.table.rows = Table.drawRows s.table.precision s.intake.store.leave.published
    rw [hsame, ← hcurrent.published]
    exact hcurrent.rows
  | packet e => exact h.packet e
  | draw =>
    change s.draw.session.Draws (if s.draw.value then [] else undrawn)
    rcases s.draw_cases with ⟨hdue, hdepth, hsession⟩ | ⟨hdue, hsession, -⟩ <;>
      rw [hdue, hsession]
    · have hquiet : Follows { s with intake := s.intake.quiet } log :=
        ⟨hlog.intake.congr (.refl _) rfl rfl (.refl _), hlog.coherent⟩
      exact (hquiet.upToDate_refresh hdepth).draws (h.placed.refresh _) rfl
    · exact h
  | refresh =>
    refine ⟨h.placed.refresh _, h.flag, fun hattached hflag => ?_⟩
    exact ⟨(h.current hattached hflag).published, s.rows_refresh⟩
  | activate id =>
    rw [perform_activate]
    exact h
  | prepareFilter selected =>
    rw [perform_prepareFilter]
    exact h
  | showSequence selected =>
    rcases s.perform_showSequence selected with hsession | hsession <;> rw [hsession]
    · exact h
    · exact h.congr rfl rfl rfl rfl rfl
  | sortBy c descending =>
    refine ⟨h.placed.sortBy c descending, h.flag, fun hattached hflag => ?_⟩
    have hcurrent := h.current hattached hflag
    refine ⟨hcurrent.published, ?_⟩
    change (s.table.sortBy c descending).rows =
      Table.drawRows (s.table.sortBy c descending).precision s.intake.store.published
    rw [Table.rows_sortBy, Table.precision_sortBy]
    exact hcurrent.rows

/-- Every run keeps the invariant. -/
theorem Draws.run (h : s.Draws undrawn) {log : List Intake.Entry} (hlog : s.Follows log)
    (ops : List Operation) : (s.run ops).Draws (s.undrawnSince undrawn ops) := by
  induction ops generalizing s undrawn log with
  | nil => exact h
  | cons op ops ih => exact ih (h.perform hlog op) (hlog.perform op)

/-- No operation changes how exactly times are drawn. -/
lemma precision_perform (s : Session) (op : Operation) :
    (s.perform op).table.precision = s.table.precision := by
  cases op with
  | draw =>
    change s.draw.session.table.precision = _
    rcases s.draw_cases with ⟨-, -, hsession⟩ | ⟨-, hsession, -⟩ <;> rw [hsession]
    exact Table.precision_refresh _ _
  | refresh => exact Table.precision_refresh _ _
  | activate id => rw [perform_activate]
  | prepareFilter selected => rw [perform_prepareFilter]
  | showSequence selected =>
    rcases s.perform_showSequence selected with hsession | hsession <;> rw [hsession]
  | sortBy c descending => exact Table.precision_sortBy _ _ _
  | openCapture | closeCapture | enter | leave | packet => rfl

lemma precision_run (s : Session) (ops : List Operation) :
    (s.run ops).table.precision = s.table.precision := by
  induction ops generalizing s with
  | nil => rfl
  | cons op ops ih => exact (ih (s.perform op)).trans (s.precision_perform op)

/-! ## No redraw is lost -/

/-- No redraw is lost.  After every run of a session that leaves the tap attached, a redraw is due
exactly if an event was accepted since the latest of the start, the opening of a capture and the
last redraw.  If none is due, everything that was gathered is published, and the table presents one
row for each published record, drawn from that record. -/
theorem run_redraw (settings : Settings) (allFlows : Option Bool) (ops : List Operation)
    (hattached : ((Session.new settings allFlows).run ops).intake.tap.attached = true) :
    (((Session.new settings allFlows).run ops).intake.tap.redraw = true ↔
      (Session.new settings allFlows).undrawnSince [] ops ≠ []) ∧
    (((Session.new settings allFlows).run ops).intake.tap.redraw = false →
      ((Session.new settings allFlows).run ops).intake.store.published =
        ((Session.new settings allFlows).run ops).intake.store.working ∧
      ((Session.new settings allFlows).run ops).table.presented.Perm
        (Table.drawRows settings.precision
          ((Session.new settings allFlows).run ops).intake.store.published)) := by
  have hnew : (Session.new settings allFlows).Draws [] :=
    UpToDate.draws ⟨rfl, rfl⟩ (Table.placed_of_isEmpty rfl rfl) rfl
  have hdraws := hnew.run (follows_new settings allFlows) ops
  refine ⟨hdraws.flag hattached, fun hflag => ?_⟩
  have hcurrent := hdraws.current hattached hflag
  refine ⟨hcurrent.published, hdraws.placed.presented_perm.trans ?_⟩
  rw [hcurrent.rows, precision_run]
  exact .refl _

/-- A call is drawn, then it goes on in a batch, and a redraw is asked for before the batch is
left. -/
def deferredRedraw : List Operation :=
  [.openCapture,
    .packet { protocol := .mgcp, frame := some 1, time := some (.whole 0), key := some (.whole 7) },
    .draw, .enter,
    .packet { protocol := .mgcp, frame := some 2, time := some (.whole 1), key := some (.whole 7) },
    .draw, .leave]

/-- The redraw that was asked for in the batch stays due after it, and the next one presents the
call with both packets. -/
theorem run_deferredRedraw :
    ((Session.new {} none).run deferredRedraw).intake.tap.redraw = true ∧
    ((Session.new {} none).run deferredRedraw).table.rows.map (·.record.packetCount) = [1] ∧
    ((Session.new {} none).undrawnSince [] deferredRedraw).map (·.frame) = [some 2] ∧
    ((Session.new {} none).run (deferredRedraw ++ [.draw])).intake.tap.redraw = false ∧
    ((Session.new {} none).run (deferredRedraw ++ [.draw])).table.presented.map
      (·.record.packetCount) = [2] := by
  obtain ⟨hflag, -⟩ := run_redraw {} none deferredRedraw (by decide)
  obtain ⟨-, hclear⟩ := run_redraw {} none (deferredRedraw ++ [.draw]) (by decide)
  have hdrawn : ((Session.new {} none).run (deferredRedraw ++ [.draw])).intake.tap.redraw = false :=
    by decide
  obtain ⟨-, hpresented⟩ := hclear hdrawn
  refine ⟨hflag.mpr (by decide), by decide, by decide, hdrawn, ?_⟩
  have hcounts := hpresented.map (·.record.packetCount)
  have hrecords : (Table.drawRows ({} : Settings).precision
      ((Session.new {} none).run (deferredRedraw ++ [.draw])).intake.store.published).map
        (·.record.packetCount) = [2] := by decide
  rw [hrecords] at hcounts
  exact List.perm_singleton.mp hcounts

end Session

end VoipCalls
