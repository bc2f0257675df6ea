import VoipCalls.Proofs.Intake.Decisions
import VoipCalls.Proofs.Session.Diagram

/-!
# The decisions of a session

From the opening of a capture on, a session decides on one event after the other, and each decision
depends on those before it.  `Session.classified` goes through the events that are handed to the tap
and gives each of them its class, from nothing but the events that it has put in the class of the
accepted ones before.

`Session.run_classified` says that this is what a session does, whatever else is asked of it between
the events, as long as it is not closed: the verdicts are those of the classes, the two counters and
the sequence index are as large as their classes, and if INVITE dialogs only are listed, then every
SIP call starts with an INVITE.
-/

namespace VoipCalls

namespace Intake

variable {x : Intake} {log : List Entry} {e : Event} {c : EventClass}

/-! ## What a decision changes -/

/-- The intake after an event of a class. -/
def afterClass (x : Intake) (e : Event) : EventClass → Intake
  | .malformed => x.countMalformed
  | .duplicate => x
  | .ignored => x.countIgnored
  | .accepted => x.admitted e

/-- The class of an event decides what it changes. -/
lemma packet_of_eventClass? (hs : x.store.Sound) (h : (x.packet e).1.eventClass? = some c) :
    (x.packet e).2 = x.afterClass e c := by
  cases x.fate e with
  | detached _ hpacket =>
    rw [hpacket] at h
    cases h
  | keyless _ _ hpacket | duplicate _ _ _ _ _ hpacket | ignored _ _ _ _ hpacket =>
    rw [hpacket] at h ⊢
    cases h
    rfl
  | passed _ hpacket =>
    rw [hpacket] at h ⊢
    cases hanswer : (x.store.upsert e (x.knownCall e)).1 with
    | ok call =>
      rw [hanswer] at h
      cases h
      obtain rfl : call = (x.entry e).call := hs.eq_of_upsert hanswer
      rfl
    | error refusal =>
      rw [hanswer] at h
      cases refusal with
      | malformed cause =>
        cases h
        rfl
      | timeOverflow | missingNumber => cases h

/-- How many events of a class there were, as far as they leave a trace. -/
def tally (x : Intake) : EventClass → ℕ
  | .malformed => x.tap.malformed
  | .duplicate => 0
  | .ignored => x.tap.ignored
  | .accepted => x.sequence.size

/-- An event adds to the tally of its own class. -/
lemma tally_afterClass (x : Intake) (e : Event) (c d : EventClass) (hd : d ≠ .duplicate) :
    (x.afterClass e c).tally d = x.tally d + if c = d then 1 else 0 := by
  have hsize : (x.admitted e).sequence.size = x.sequence.size + 1 := by
    change (x.sequence.items ++ [_]).length = _
    rw [List.length_append]
    rfl
  cases c <;> cases d <;> first | exact absurd rfl hd | exact hsize | rfl

/-! ## The first event of a call -/

/-- If INVITE dialogs only are listed, every SIP call starts with an INVITE. -/
def OpensWithInvite (flowShow : FlowShow) (log : List Entry) : Prop :=
  flowShow = .onlyInvites → ∀ call e es, eventsOf call log = e :: es → e.protocol = .sip →
    Text.toUpper (textOrEmpty e.method) = "INVITE"

/-- An event of a call without events so far is of no known call. -/
lemma Follows.knownCall_eq_none (h : x.Follows log) (hnone : eventsOf (x.entry e).call log = []) :
    x.knownCall e = none := by
  cases hknown : x.knownCall e with
  | none => rfl
  | some call =>
    obtain ⟨a, ha, hentry⟩ := h.exists_of_mem_keys (Tap.mem_of_callFor hknown)
    have hcall : a.call = call := (KeyEntry.mk.inj hentry).2.2
    have hin : a.event ∈ eventsOf call log := by
      rw [mem_eventsOf, ← hcall]
      exact ha
    rw [call_entry_of_known hknown] at hnone
    rw [hnone] at hin
    exact absurd hin List.not_mem_nil

/-- An event that opens a call is an INVITE if it has to be. -/
lemma Follows.opensWithInvite (h : x.Follows log) (hlog : OpensWithInvite x.tap.flowShow log)
    (e : Event) : OpensWithInvite x.tap.flowShow (x.logAfter log e) := by
  unfold logAfter
  split
  case isFalse => exact hlog
  case isTrue hadmits =>
    intro hflow call first es hevents hsip
    rw [eventsOf_concat] at hevents
    split at hevents
    case isFalse => exact hlog hflow call first es hevents hsip
    case isTrue hcall =>
      cases hbefore : eventsOf call log with
      | cons first' es' =>
        rw [hbefore] at hevents
        obtain ⟨rfl, -⟩ := List.cons.inj hevents
        exact hlog hflow call _ es' hbefore hsip
      | nil =>
        rw [hbefore] at hevents
        obtain rfl : e = first := (List.cons.inj hevents).1
        rw [← hcall] at hbefore
        obtain ⟨-, -, -, -, hwelcome⟩ := admits_iff.mp hadmits
        rw [h.knownCall_eq_none hbefore] at hwelcome
        have hopens : x.tap.opensCall e = true := by simpa using hwelcome
        by_contra hmethod
        rw [opensCall_eq_false_iff.mpr ⟨hflow, hsip, hmethod⟩] at hopens
        cases hopens

end Intake

namespace Session

variable {s : Session} {log : List Intake.Entry}

/-! ## The events of a run and the decisions on them -/

/-- The events that some operations hand to the tap. -/
def deliveries : List Operation → List Event
  | [] => []
  | .packet e :: ops => e :: deliveries ops
  | _ :: ops => deliveries ops

/-- The verdicts on them. -/
def verdicts (s : Session) : List Operation → List Verdict
  | [] => []
  | .packet e :: ops => (s.packet e).value :: (s.packet e).session.verdicts ops
  | op :: ops => (s.perform op).verdicts ops

/-- Some events with their classes, if `earlier` are the events that were accepted before. -/
def classified (flowShow : FlowShow) (earlier : List Event) :
    List Event → List (Event × EventClass)
  | [] => []
  | e :: es =>
    let c := e.classAfter flowShow earlier
    (e, c) :: classified flowShow (if c = .accepted then earlier ++ [e] else earlier) es

/-- Operations that neither open nor close a capture leave the tap as it is, but for what it takes
in. -/
lemma tap_perform {op : Operation} (hopen : op ≠ .openCapture) (hclose : op ≠ .closeCapture)
    (h : s.Follows log) :
    (s.perform op).intake.tap.attached = s.intake.tap.attached ∧
      (s.perform op).intake.tap.flowShow = s.intake.tap.flowShow := by
  cases op with
  | openCapture => exact absurd rfl hopen
  | closeCapture => exact absurd rfl hclose
  | packet e => exact h.intake.tap_packet e
  | draw =>
    obtain ⟨flag, hx⟩ := s.intake_draw
    change s.draw.session.intake.tap.attached = _ ∧ s.draw.session.intake.tap.flowShow = _
    rw [hx]
    exact ⟨rfl, rfl⟩
  | activate id =>
    rw [perform_activate]
    exact ⟨rfl, rfl⟩
  | prepareFilter selected =>
    rw [perform_prepareFilter]
    exact ⟨rfl, rfl⟩
  | showSequence selected =>
    rcases s.perform_showSequence selected with hsession | hsession <;> rw [hsession] <;>
      exact ⟨rfl, rfl⟩
  | enter | leave | refresh | sortBy => exact ⟨rfl, rfl⟩

/-- Preparing a diagram neither adds nor removes events. -/
lemma size_showOnly (x : SequenceIndex) (selected : List Int) :
    (x.showOnly selected).size = x.size := by
  have hperm := (perm_showOnly x selected).length_eq
  rwa [List.length_map, List.length_map] at hperm

/-- Only events and the opening of a capture change the tally. -/
lemma tally_perform {op : Operation} (hopen : op ≠ .openCapture) (hpacket : ∀ e, op ≠ .packet e) :
    (s.perform op).intake.tally = s.intake.tally := by
  cases op with
  | openCapture => exact absurd rfl hopen
  | packet e => exact absurd rfl (hpacket e)
  | draw =>
    obtain ⟨flag, hx⟩ := s.intake_draw
    change s.draw.session.intake.tally = _
    rw [hx]
    rfl
  | activate id => rw [perform_activate]
  | prepareFilter selected => rw [perform_prepareFilter]
  | showSequence selected =>
    rcases s.perform_showSequence selected with hsession | hsession <;> rw [hsession]
    funext c
    cases c with
    | accepted => exact size_showOnly _ selected
    | malformed | duplicate | ignored => rfl
  | closeCapture | enter | leave | refresh | sortBy => rfl

/-! ## Runs -/

/-- What a run has decided on some events and what came of it; `cs` are their classes. -/
structure Decides (s t : Session) (vs : List Verdict) (earlier : List Event)
    (cs : List (Event × EventClass)) : Prop where
  /-- The verdicts are those of the classes. -/
  verdicts : vs.map Verdict.eventClass? = cs.map fun p => some p.2
  /-- The tallies have grown by the sizes of the classes. -/
  tally : ∀ c, c ≠ .duplicate → t.intake.tally c = s.intake.tally c + cs.countP fun p => p.2 = c
  /-- The session follows a log of the accepted events, in which SIP calls start as they have to. -/
  log : ∃ log, t.Follows log ∧
    log.map (·.event) = earlier ++ (cs.filter fun p => p.2 = .accepted).map (·.1) ∧
    Intake.OpensWithInvite s.intake.tap.flowShow log

/-- One event is decided on by its class. -/
lemma Follows.eventClass?_packet (h : s.Follows log) (hattached : s.intake.tap.attached = true)
    {e : Event} (htime : (s.packet e).value ≠ .timeOverflow) {c : EventClass}
    (hc : e.classAfter s.intake.tap.flowShow (log.map (·.event)) = c) :
    (s.packet e).value.eventClass? = some c ∧
      (s.packet e).session.intake = s.intake.afterClass e c ∧
      (s.logAfter log (.packet e)).map (·.event) =
        if c = .accepted then log.map (·.event) ++ [e] else log.map (·.event) := by
  have hclass : (s.packet e).value.eventClass? = some c := by
    rw [← hc]
    exact h.intake.eventClass?_packet hattached htime
  refine ⟨hclass, Intake.packet_of_eventClass? h.intake.sound hclass, ?_⟩
  rw [h.map_logAfter]
  change (if (s.packet e).value = .accepted then _ else _) = _
  have haccepted : (s.packet e).value = .accepted ↔ c = .accepted := by
    cases hvalue : (s.packet e).value <;> rw [hvalue] at hclass <;> cases hclass <;> simp
  simp only [haccepted]

/-- An event is accepted exactly if its class is that of the accepted ones. -/
lemma Decides.answers {t : Session} {vs : List Verdict} {earlier : List Event}
    {cs : List (Event × EventClass)} (h : Decides s t vs earlier cs) :
    (vs.map fun v => decide (v = .accepted)) = cs.map fun p => decide (p.2 = .accepted) := by
  have hclass : ∀ v : Verdict, decide (v = .accepted) =
      decide (v.eventClass? = some .accepted) := by
    intro v
    cases v <;> rfl
  calc (vs.map fun v => decide (v = .accepted))
      = (vs.map Verdict.eventClass?).map fun c => decide (c = some .accepted) := by
        rw [List.map_map]
        exact List.map_congr_left fun v _ => hclass v
    _ = cs.map fun p => decide (p.2 = .accepted) := by
        rw [h.verdicts, List.map_map]
        exact List.map_congr_left fun p _ => by simp

/-- One decision more, at the front. -/
lemma Decides.cons {u t : Session} {v : Verdict} {vs : List Verdict} {earlier : List Event}
    {e : Event} {c : EventClass} {cs : List (Event × EventClass)}
    (hclass : v.eventClass? = some c) (hintake : u.intake = s.intake.afterClass e c)
    (hflow : u.intake.tap.flowShow = s.intake.tap.flowShow)
    (hrest : Decides u t vs (if c = .accepted then earlier ++ [e] else earlier) cs) :
    Decides s t (v :: vs) earlier ((e, c) :: cs) where
  verdicts := by rw [List.map_cons, List.map_cons, hclass, hrest.verdicts]
  tally d hd := by
    have hfirst : u.intake.tally d = s.intake.tally d + if c = d then 1 else 0 := by
      rw [hintake]
      exact Intake.tally_afterClass _ e c d hd
    rw [hrest.tally d hd, hfirst, List.countP_cons]
    simp only [decide_eq_true_eq]
    omega
  log := by
    obtain ⟨log, hlog, hevents, hinvite⟩ := hrest.log
    rw [hflow] at hinvite
    refine ⟨log, hlog, ?_, hinvite⟩
    rw [hevents]
    cases c <;> simp

/-- An operation that hands nothing to the tap is decided on by nobody. -/
lemma quiet_cons (s : Session) (log : List Intake.Entry) {op : Operation}
    (hopen : op ≠ .openCapture) (hquiet : ∀ e, op ≠ .packet e) (ops : List Operation) :
    s.verdicts (op :: ops) = (s.perform op).verdicts ops ∧
      deliveries (op :: ops) = deliveries ops ∧ s.logAfter log op = log := by
  cases op with
  | openCapture => exact absurd rfl hopen
  | packet e => exact absurd rfl (hquiet e)
  | closeCapture | enter | leave | draw | refresh | activate | prepareFilter | showSequence
  | sortBy => exact ⟨rfl, rfl, rfl⟩

/-- Every run decides on its events by their classes, as long as the session is not closed and no
time stops it. -/
theorem Follows.decides_run (h : s.Follows log) (hattached : s.intake.tap.attached = true)
    (hinvite : Intake.OpensWithInvite s.intake.tap.flowShow log) {ops : List Operation}
    (hopen : .openCapture ∉ ops) (hclose : .closeCapture ∉ ops)
    (htime : .timeOverflow ∉ s.verdicts ops) :
    Decides s (s.run ops) (s.verdicts ops) (log.map (·.event))
      (classified s.intake.tap.flowShow (log.map (·.event)) (deliveries ops)) := by
  induction ops generalizing s log with
  | nil =>
    refine ⟨rfl, fun c _ => rfl, log, h, ?_, hinvite⟩
    exact (List.append_nil _).symm
  | cons op ops ih =>
    rw [List.mem_cons, not_or] at hopen hclose
    obtain ⟨hopens, hopen⟩ := hopen
    obtain ⟨hcloses, hclose⟩ := hclose
    obtain ⟨hattached', hflow⟩ := tap_perform (Ne.symm hopens) (Ne.symm hcloses) h
    rw [hattached] at hattached'
    have hnext := h.perform op
    by_cases hpacket : ∃ e, op = .packet e
    case pos =>
      obtain ⟨e, rfl⟩ := hpacket
      rw [verdicts, List.mem_cons, not_or] at htime
      obtain ⟨c, hc⟩ : ∃ c, e.classAfter s.intake.tap.flowShow (log.map (·.event)) = c :=
        ⟨_, rfl⟩
      obtain ⟨hclass, hintake, hevents⟩ := h.eventClass?_packet hattached (Ne.symm htime.1) hc
      have hinvite' := h.intake.opensWithInvite hinvite e
      rw [← hflow] at hinvite'
      have hrest := ih hnext hattached' hinvite' hopen hclose htime.2
      rw [hflow, hevents] at hrest
      have hfirst := Decides.cons hclass hintake hflow hrest
      rw [← hc] at hfirst
      exact hfirst
    case neg =>
      have hquiet : ∀ e, op ≠ .packet e := fun e heq => hpacket ⟨e, heq⟩
      obtain ⟨hverdicts, hdeliveries, hlog⟩ :=
        quiet_cons s log (Ne.symm hopens) hquiet ops
      rw [hlog] at hnext
      rw [hverdicts] at htime
      rw [← hflow] at hinvite
      have hrest := ih hnext hattached' hinvite hopen hclose htime
      have htally : (s.perform op).intake.tally = s.intake.tally :=
        tally_perform (Ne.symm hopens) hquiet
      obtain ⟨final, hfinal, hevents, hopening⟩ := hrest.log
      rw [hflow] at hrest hevents hopening
      rw [hverdicts, hdeliveries]
      refine ⟨hrest.verdicts, fun c hc => ?_, final, hfinal, hevents, hopening⟩
      rw [← htally]
      exact hrest.tally c hc

/-! ## The decision is exact -/

/-- From the opening of a capture on, the decisions on events are exact, whatever the session and
its choice of flows are and whatever else is asked of it until it is closed: each event that is
handed to the tap is in one class, by the events that were accepted before, and the verdict is that
of the class.  The counters and the sequence index are as large as their classes.  If INVITE dialogs
only are listed, then the first accepted event of every SIP call is an INVITE. -/
theorem run_classified (s : Session) (ops : List Operation) (hopen : .openCapture ∉ ops)
    (hclose : .closeCapture ∉ ops) (htime : .timeOverflow ∉ s.openCapture.verdicts ops)
    {cs : List (Event × EventClass)}
    (hcs : cs = classified s.intake.tap.flowShow [] (deliveries ops)) :
    (s.openCapture.verdicts ops).map Verdict.eventClass? = (cs.map fun p => some p.2) ∧
    ((s.openCapture.verdicts ops).map fun v => decide (v = .accepted)) =
      (cs.map fun p => decide (p.2 = .accepted)) ∧
    (s.openCapture.run ops).intake.tap.malformed = (cs.countP fun p => p.2 = .malformed) ∧
    (s.openCapture.run ops).intake.tap.ignored = (cs.countP fun p => p.2 = .ignored) ∧
    (s.openCapture.run ops).intake.sequence.size = (cs.countP fun p => p.2 = .accepted) ∧
    ∃ log, (s.openCapture.run ops).Follows log ∧
      log.map (·.event) = (cs.filter fun p => p.2 = .accepted).map (·.1) ∧
      (s.intake.tap.flowShow = .onlyInvites → ∀ call e es,
        Intake.eventsOf call log = e :: es → e.protocol = .sip →
        Text.toUpper (textOrEmpty e.method) = "INVITE") := by
  have hstart : Intake.OpensWithInvite s.intake.tap.flowShow [] := by
    intro _ call e es hevents
    cases hevents
  have hdecides : s.openCapture.Decides (s.openCapture.run ops) (s.openCapture.verdicts ops) []
      cs := by
    rw [hcs]
    exact (follows_openCapture s).decides_run rfl hstart hopen hclose htime
  have htally : ∀ c, c ≠ .duplicate →
      (s.openCapture.run ops).intake.tally c = cs.countP fun p => p.2 = c := by
    intro c hc
    have hnone : s.openCapture.intake.tally c = 0 := by cases c <;> rfl
    rw [hdecides.tally c hc, hnone, Nat.zero_add]
  obtain ⟨log, hlog, hevents, hinvite⟩ := hdecides.log
  exact ⟨hdecides.verdicts, hdecides.answers, htally .malformed (by decide),
    htally .ignored (by decide), htally .accepted (by decide), log, hlog, hevents, hinvite⟩

/-- A dialog that starts with its second packet is left out until its INVITE comes; then the packets
are taken, the INVITE only once.  A packet without a key and one without a time are of no use. -/
def mixedDeliveries : List Operation :=
  [.packet { protocol := .sip, frame := some 1, time := some (.whole 0), key := some (.text "a"),
             method := some "ACK" },
    .packet { protocol := .sip, frame := some 2, time := some (.whole 0) },
    .enter,
    .packet { protocol := .sip, frame := some 3, time := some (.whole 1), key := some (.text "a"),
              method := some "invite" },
    .packet { protocol := .sip, frame := some 3, key := some (.text "a") },
    .draw, .leave,
    .packet { protocol := .sip, frame := some 4, key := some (.text "a"), method := some "ACK" },
    .packet { protocol := .sip, frame := some 1, time := some (.whole 2), key := some (.text "a"),
              method := some "ACK" }]

/-- The packet that was left out at first is taken at last, for it belongs to a call by then. -/
theorem run_mixedDeliveries :
    ((Session.new {} none).openCapture.verdicts mixedDeliveries).map Verdict.eventClass? =
      [some .ignored, some .malformed, some .accepted, some .duplicate, some .malformed,
        some .accepted] ∧
    ((Session.new {} none).openCapture.run mixedDeliveries).intake.tap.malformed = 2 ∧
    ((Session.new {} none).openCapture.run mixedDeliveries).intake.tap.ignored = 1 ∧
    ((Session.new {} none).openCapture.run mixedDeliveries).intake.sequence.size = 2 := by
  obtain ⟨hverdicts, -, hmalformed, hignored, haccepted, -⟩ :=
    run_classified (Session.new {} none) mixedDeliveries (by decide) (by decide) (by decide) rfl
  rw [hverdicts, hmalformed, hignored, haccepted]
  decide

end Session

end VoipCalls
