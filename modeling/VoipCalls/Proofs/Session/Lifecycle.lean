import VoipCalls.Proofs.Session.Requests

/-!
# Closing and opening

When a session is closed, its tap is detached, and what was gathered stays as it is until a capture
is opened again: no request but that one gets anything past the tap or into the diagram
(`Shut.serveAll`).

When a session opens a capture, it forgets what it had gathered.  What it keeps is what it was made
with (`Session.Keeps`) and what its host has chosen since: the flows, and the sorting of the table.
Two sessions that keep the same are the same session once they have opened a capture
(`Keeps.openCapture_eq`).

`Session.lifecycle` puts the two together.
-/

namespace VoipCalls

namespace Session

variable {s t : Session} {settings : Settings}

/-! ## After closing -/

/-- A session `t` still holds what `s` had gathered. -/
structure Retains (t s : Session) : Prop where
  /-- The working records are the same. -/
  working : t.intake.store.working = s.intake.store.working
  /-- The sequence index has the same events, in the same order. -/
  sequence : t.intake.sequence = s.intake.sequence
  /-- The keys have the same calls. -/
  keys : t.intake.tap.keys = s.intake.tap.keys
  /-- The same packets were seen. -/
  seen : t.intake.tap.seen = s.intake.tap.seen
  /-- Nothing more was counted. -/
  counters : t.intake.tap.malformed = s.intake.tap.malformed ∧
    t.intake.tap.ignored = s.intake.tap.ignored

/-- A session that was closed with what `s` had gathered. -/
structure Shut (t s : Session) : Prop where
  /-- The session is closed. -/
  closed : t.closed = true
  /-- The tap is detached. -/
  detached : t.intake.tap.attached = false
  /-- What was gathered is still there. -/
  retains : t.Retains s

lemma shut_closeCapture (s : Session) : s.closeCapture.Shut s :=
  ⟨rfl, rfl, rfl, rfl, rfl, rfl, rfl, rfl⟩

/-- No packet gets past a detached tap. -/
lemma Shut.packet_eq (h : t.Shut s) (e : Event) :
    t.packet e = { value := .detached, session := t } := by
  have hpacket : t.intake.packet e = (.detached, t.intake) := by
    unfold Intake.packet
    rw [h.detached]
    rfl
  unfold packet
  rw [hpacket]
  rfl

/-- No redraw is ever due. -/
lemma Shut.draw_eq (h : t.Shut s) : t.draw = { value := false, session := t } := by
  have hdraw : t.intake.draw = (false, t.intake) := by
    unfold Intake.draw
    rw [h.detached]
    rfl
  unfold draw
  rw [hdraw]

/-- No diagram is handed over. -/
lemma Shut.showSequence_eq (h : t.Shut s) (selected : List Int) :
    t.showSequence selected = { value := none, session := t } := by
  unfold showSequence
  rw [h.closed, Bool.true_or]
  rfl

/-- Every request but the opening of a capture leaves the session shut. -/
lemma Shut.serve (h : t.Shut s) {q : Request} (hq : q ≠ .operation .openCapture) :
    (t.serve q).Shut s := by
  obtain ⟨hworking, hsequence, hkeys, hseen, hcounters⟩ := h.retains
  cases q with
  | operation op =>
    change (t.perform op).Shut s
    cases op with
    | openCapture => exact absurd rfl hq
    | closeCapture => exact ⟨rfl, rfl, hworking, hsequence, hkeys, hseen, hcounters⟩
    | enter | refresh | sortBy =>
      exact ⟨h.closed, h.detached, hworking, hsequence, hkeys, hseen, hcounters⟩
    | leave =>
      have hleft : t.leave.intake.store.working = s.intake.store.working :=
        (Store.working_leave t.intake.store).trans hworking
      exact ⟨h.closed, h.detached, hleft, hsequence, hkeys, hseen, hcounters⟩
    | packet e =>
      change (t.packet e).session.Shut s
      rw [h.packet_eq]
      exact h
    | draw =>
      change t.draw.session.Shut s
      rw [h.draw_eq]
      exact h
    | activate id =>
      rw [perform_activate]
      exact h
    | prepareFilter selected =>
      rw [perform_prepareFilter]
      exact h
    | showSequence selected =>
      change (t.showSequence selected).session.Shut s
      rw [h.showSequence_eq]
      exact h
  | chooseFlows flowShow =>
    exact ⟨h.closed, h.detached, hworking, hsequence, hkeys, hseen, hcounters⟩
  | title | selectAll | actionsEnabled => exact h

/-- So a session stays shut until a capture is opened. -/
theorem Shut.serveAll (h : t.Shut s) {qs : List Request}
    (hqs : .operation .openCapture ∉ qs) : (t.serveAll qs).Shut s := by
  refine serveAll_induction (motive := fun u => u.Shut s) h fun u q hq hu => ?_
  have hother : q ≠ .operation .openCapture := by
    intro hopen
    rw [hopen] at hq
    exact hqs hq
  exact hu.serve hother

/-! ## What a session keeps for good -/

/-- What a session was made with, and no request changes. -/
structure Keeps (s : Session) (settings : Settings) : Prop where
  /-- The settings. -/
  made : s.settings = settings
  /-- The kind of analysis of the flow diagram. -/
  analysis : s.intake.sequence.analysisType = voipAnalysis
  /-- The number of decimal places of times. -/
  precision : s.table.precision = settings.precision
  /-- Between two requests sorting is not suspended. -/
  sorting : s.table.sorting = true

lemma keeps_new (settings : Settings) (allFlows : Option Bool) :
    (Session.new settings allFlows).Keeps settings :=
  ⟨rfl, rfl, rfl, rfl⟩

/-- A session keeps what it keeps if the intake is replaced by one for the same analysis. -/
lemma Keeps.withIntake (h : s.Keeps settings) {x : Intake}
    (hx : x.sequence.analysisType = s.intake.sequence.analysisType) :
    Keeps { s with intake := x } settings :=
  ⟨h.made, hx.trans h.analysis, h.precision, h.sorting⟩

/-- Taking a packet does not change the kind of analysis. -/
lemma analysisType_packet (x : Intake) (e : Event) :
    (x.packet e).2.sequence.analysisType = x.sequence.analysisType := by
  rw [Intake.sequence_packet]
  split <;> rfl

/-- Preparing the diagram does not, either. -/
lemma analysisType_showOnly (x : SequenceIndex) (selected : List Int) :
    (x.showOnly selected).analysisType = x.analysisType := by
  unfold SequenceIndex.showOnly SequenceIndex.setVisibility SequenceIndex.sortStable
  split <;> rfl

lemma Keeps.refresh (h : s.Keeps settings) : s.refresh.Keeps settings := by
  refine ⟨h.made, h.analysis, ?_, ?_⟩
  · exact (Table.precision_refresh _ _).trans h.precision
  · exact (Table.sorting_refresh _ _).trans h.sorting

/-- Every request keeps what a session was made with. -/
theorem Keeps.serve (h : s.Keeps settings) (q : Request) : (s.serve q).Keeps settings := by
  cases q with
  | operation op =>
    change (s.perform op).Keeps settings
    cases op with
    | openCapture => exact ⟨h.made, h.analysis, h.precision, h.sorting⟩
    | closeCapture | enter | leave => exact ⟨h.made, h.analysis, h.precision, h.sorting⟩
    | packet e => exact h.withIntake (analysisType_packet _ e)
    | draw =>
      change s.draw.session.Keeps settings
      rcases s.draw_cases with ⟨-, -, hsession⟩ | ⟨-, hsession, -⟩ <;> rw [hsession]
      · have hquiet : Keeps { s with intake := s.intake.quiet } settings := h.withIntake rfl
        exact hquiet.refresh
      · exact h
    | refresh => exact h.refresh
    | activate id =>
      rw [perform_activate]
      exact h
    | prepareFilter selected =>
      rw [perform_prepareFilter]
      exact h
    | showSequence selected =>
      rcases s.perform_showSequence selected with hsession | hsession <;> rw [hsession]
      · exact h
      · exact h.withIntake (analysisType_showOnly _ selected)
    | sortBy c descending =>
      refine ⟨h.made, h.analysis, ?_, ?_⟩
      · exact (Table.precision_sortBy _ _ _).trans h.precision
      · exact (Table.sorting_sortBy _ _ _).trans h.sorting
  | chooseFlows flowShow => exact h.withIntake rfl
  | title | selectAll | actionsEnabled => exact h

lemma Keeps.serveAll (h : s.Keeps settings) (qs : List Request) :
    (s.serveAll qs).Keeps settings :=
  serveAll_induction (motive := fun u => u.Keeps settings) h fun _ q _ hu => hu.serve q

/-- Two sessions that were made with the same settings are the same once they have opened a capture,
if the same choices were made in both and as many batches are open. -/
theorem Keeps.openCapture_eq (hs : s.Keeps settings) (ht : t.Keeps settings)
    (hdepth : s.intake.store.depth = t.intake.store.depth)
    (hflows : s.intake.tap.flowShow = t.intake.tap.flowShow)
    (hcolumn : s.table.sortColumn = t.table.sortColumn)
    (hdescending : s.table.descending = t.table.descending) :
    s.openCapture = t.openCapture := by
  have hintake : s.openCapture.intake = t.openCapture.intake := by
    have hstore : s.intake.store.clear = t.intake.store.clear := by
      unfold Store.clear
      rw [hdepth]
    have hsequence : s.intake.sequence.clear = t.intake.sequence.clear := by
      unfold SequenceIndex.clear
      rw [hs.analysis, ht.analysis]
    have htap : s.intake.tap.reset = t.intake.tap.reset := by
      unfold Tap.reset
      rw [hflows]
    unfold openCapture
    rw [hstore, hsequence, htap]
  have htable : s.table.clear = t.table.clear := by
    unfold Table.clear
    rw [hcolumn, hdescending, hs.precision, ht.precision, hs.sorting, ht.sorting]
  have hsettings : s.settings = t.settings := hs.made.trans ht.made.symm
  calc s.openCapture
      = ⟨s.settings, s.openCapture.intake, s.table.clear, false⟩ := rfl
    _ = ⟨t.settings, t.openCapture.intake, t.table.clear, false⟩ := by
        rw [hintake, htable, hsettings]

/-! ## The life of a session -/

/-- A session that is closed takes nothing in until a capture is opened again, whatever session it
is and whatever is asked of it meanwhile: no packet is taken, no redraw is due, no diagram is handed
over, and everything that was gathered stays.

A session that opens a capture outside of all batches has forgotten everything, whatever was asked
of it before: it is a new one with the same settings, the same choice of flows and the same sorting
of the table, and no request can ever tell the two apart. -/
theorem lifecycle :
    (∀ (s : Session) (qs : List Request), .operation .openCapture ∉ qs →
      (s.closeCapture.serveAll qs).Retains s ∧
      (∀ e, ((s.closeCapture.serveAll qs).packet e).value = .detached) ∧
      (s.closeCapture.serveAll qs).draw.value = false ∧
      ∀ selected, ((s.closeCapture.serveAll qs).showSequence selected).value = none) ∧
    ∀ (settings : Settings) (allFlows allFlows' : Option Bool) (history : List Request)
      (s n : Session), s = (Session.new settings allFlows).serveAll history →
      n = (Session.new settings allFlows').sortBy s.table.sortColumn s.table.descending →
      s.intake.store.depth = 0 → n.intake.tap.flowShow = s.intake.tap.flowShow →
      ∀ qs : List Request, s.openCapture.responses qs = n.openCapture.responses qs ∧
        s.openCapture.serveAll qs = n.openCapture.serveAll qs := by
  constructor
  · intro s qs hqs
    have hshut := (shut_closeCapture s).serveAll hqs
    refine ⟨hshut.retains, fun e => ?_, ?_, fun selected => ?_⟩
    · rw [hshut.packet_eq]
    · rw [hshut.draw_eq]
    · rw [hshut.showSequence_eq]
  · intro settings allFlows allFlows' history s n hs hn hdepth hflows qs
    have hkept : s.Keeps settings := by
      rw [hs]
      exact (keeps_new settings allFlows).serveAll history
    have hkept' : n.Keeps settings := by
      rw [hn]
      exact (keeps_new settings allFlows').serve
        (.operation (.sortBy s.table.sortColumn s.table.descending))
    have hsame : s.openCapture = n.openCapture := by
      apply hkept.openCapture_eq hkept'
      · rw [hdepth, hn]
        rfl
      · exact hflows.symm
      · rw [hn]
        exact (Table.sortColumn_sortBy _ _ _).symm
      · rw [hn]
        exact (Table.descending_sortBy _ _ _).symm
    rw [hsame]
    exact ⟨rfl, rfl⟩

/-- A capture in which two calls are opened, one of them hidden in the diagram, and the table is
sorted anew. -/
def firstCapture : List Request :=
  [.operation .openCapture,
    .operation (.packet
      { protocol := .mgcp, frame := some 2, time := some (.whole 0), key := some (.whole 7) }),
    .operation (.packet
      { protocol := .h248, frame := some 1, time := some (.whole 0), key := some (.whole 7) }),
    .operation .draw, .operation (.showSequence [1]), .operation (.sortBy .packets true)]

/-- A packet that was seen in the first capture, and what it leads to. -/
def secondCapture : List Request :=
  [.operation (.packet
      { protocol := .mgcp, frame := some 2, time := some (.whole 0), key := some (.whole 7) }),
    .operation .draw, .operation (.prepareFilter [0]), .operation (.showSequence [0])]

/-- The session that has gathered the first capture. -/
def afterFirst : Session :=
  (Session.new {} none).serveAll firstCapture

/-- After it was closed, the session takes no packet and keeps its two calls.  After it has opened
another capture, it takes the packet, like a new session. -/
theorem lifecycle_twoCaptures :
    (afterFirst.closeCapture.serveAll secondCapture).intake.store.working.map (·.packetCount) =
      [1, 1] ∧
    (afterFirst.closeCapture.serveAll secondCapture).draw.value = false ∧
    (afterFirst.openCapture.responses secondCapture).head? =
      some { answer := .verdict .accepted } ∧
    afterFirst.openCapture.responses secondCapture =
      ((Session.new {} (some false)).sortBy .packets true).openCapture.responses
        secondCapture := by
  obtain ⟨hshut, hopened⟩ := lifecycle
  obtain ⟨hretains, -, hdraw, -⟩ := hshut afterFirst secondCapture (by decide)
  have hcalls : afterFirst.intake.store.working.map (·.packetCount) = [1, 1] := by decide
  refine ⟨?_, hdraw, by decide, ?_⟩
  · rw [hretains.working]
    exact hcalls
  · have hsame := hopened {} none (some false) firstCapture afterFirst _ rfl rfl (by decide)
      (by decide) secondCapture
    exact hsame.1

end Session

end VoipCalls
