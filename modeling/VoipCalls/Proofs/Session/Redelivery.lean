import VoipCalls.Proofs.Intake.Decisions
import VoipCalls.Proofs.Session.Requests

/-!
# Packets that come again

A packet that was accepted may come again at any time, and it may come changed: only its protocol,
its key and its frame are the same, whatever has become of its time or its payload.  The tap
remembers every packet that it has taken until a capture is opened (`Remembers.serve`), and it looks
there before it looks at anything else of an event with a key (`Remembers.packet_eq`).

So nothing can tell that a packet came again but the answer to it (`Session.redelivery`).
-/

namespace VoipCalls

namespace Session

variable {s : Session} {e d : Event}

/-! ## What the tap remembers -/

/-- The packet of an event is among those that were taken. -/
def Remembers (s : Session) (e : Event) : Prop :=
  ⟨e.callKey.1, e.callKey.2, e.frameNumber⟩ ∈ s.intake.tap.seen

/-- A packet that is accepted is remembered. -/
lemma remembers_of_accepted (h : (s.packet e).value = .accepted) :
    (s.packet e).session.Remembers e := by
  obtain ⟨-, call, -, hx⟩ := Intake.exists_of_accepted h
  change _ ∈ (s.intake.packet e).2.tap.seen
  rw [hx]
  exact Intake.seenPacket_mem_taken s.intake e call

/-- No packet makes the tap forget another. -/
lemma seen_subset_packet (x : Intake) (e : Event) : x.tap.seen ⊆ (x.packet e).2.tap.seen := by
  by_cases haccepted : (x.packet e).1 = .accepted
  · obtain ⟨-, call, -, hx⟩ := Intake.exists_of_accepted haccepted
    rw [hx]
    change x.tap.seen ⊆ if x.tap.hasSeen _ _ _ then x.tap.seen else x.tap.seen ++ [_]
    split
    · exact List.Subset.refl _
    · exact List.subset_append_left _ _
  · obtain ⟨malformed, ignored, hx⟩ := Intake.exists_counting haccepted
    rw [hx]
    exact List.Subset.refl _

/-- No request but the opening of a capture makes the tap forget a packet. -/
theorem Remembers.serve (h : s.Remembers e) {q : Request} (hq : q ≠ .operation .openCapture) :
    (s.serve q).Remembers e := by
  cases q with
  | operation op =>
    change (s.perform op).Remembers e
    cases op with
    | openCapture => exact absurd rfl hq
    | packet d => exact seen_subset_packet s.intake d h
    | draw =>
      obtain ⟨flag, hx⟩ := s.intake_draw
      change _ ∈ s.draw.session.intake.tap.seen
      rw [hx]
      exact h
    | activate id =>
      rw [perform_activate]
      exact h
    | prepareFilter selected =>
      rw [perform_prepareFilter]
      exact h
    | showSequence selected =>
      rcases s.perform_showSequence selected with hsession | hsession <;> rw [hsession] <;> exact h
    | closeCapture | enter | leave | refresh | sortBy => exact h
  | chooseFlows | title | selectAll | actionsEnabled => exact h

/-- An event that is accepted has a frame. -/
lemma exists_frame_of_accepted (h : (s.packet e).value = .accepted) :
    ∃ frame, e.frame = some frame := by
  obtain ⟨-, call, hanswer⟩ := Intake.packet_accepted_iff.mp h
  obtain ⟨frame, -, -, hframe, -⟩ := Store.exists_of_upsert_eq_ok hanswer
  exact ⟨frame, hframe⟩

/-- A packet that is remembered changes nothing when it comes again: it is seen to be a duplicate,
unless the tap is detached. -/
theorem Remembers.packet_eq (h : s.Remembers e) {frame : Int} (hframe : e.frame = some frame)
    (hagain : d.redelivers e = true) :
    ∃ v, (v = .duplicate ∨ v = .detached) ∧ s.packet d = { value := v, session := s } := by
  obtain ⟨hshares, hsame⟩ := Event.redelivers_iff.mp hagain
  obtain ⟨hprotocol, k, hd, he⟩ := Event.sharesCall_iff.mp hshares
  rw [hframe] at hsame
  have hseen : s.intake.tap.hasSeen d.protocol k frame = true := by
    refine Tap.hasSeen_iff.mpr ?_
    rw [Remembers, Event.callKey_eq he, Event.frameNumber, hframe] at h
    rw [hprotocol]
    exact h
  cases hattached : s.intake.tap.attached with
  | false =>
    refine ⟨.detached, Or.inr rfl, ?_⟩
    unfold packet
    rw [Intake.packet_of_detached hattached]
    rfl
  | true =>
    have hpacket : s.intake.packet d = (.duplicate, s.intake) := by
      rw [Intake.packet_of_key hattached hd, hsame]
      exact if_pos hseen
    refine ⟨.duplicate, Or.inl rfl, ?_⟩
    unfold packet
    rw [hpacket]
    rfl

/-! ## Runs with packets inserted -/

/-- A step of a run into which events are inserted: a request of its own, or an event that comes
again. -/
inductive Step where
  | own (q : Request)
  | again (d : Event)
deriving DecidableEq

/-- What is asked of the session in a step. -/
def Step.request : Step → Request
  | .own q => q
  | .again d => .operation (.packet d)

/-- The request of a step of the run itself. -/
def Step.own? : Step → Option Request
  | .own q => some q
  | .again _ => none

/-- What a host hears of its own requests, in a run into which events are inserted. -/
def ownResponses (s : Session) : List Step → List Response
  | [] => []
  | .own q :: steps => s.respond q :: (s.serve q).ownResponses steps
  | .again d :: steps => (s.packet d).session.ownResponses steps

/-- The verdicts on the events that are inserted. -/
def againVerdicts (s : Session) : List Step → List Verdict
  | [] => []
  | .own q :: steps => (s.serve q).againVerdicts steps
  | .again d :: steps => (s.packet d).value :: (s.packet d).session.againVerdicts steps

/-- Inserting a packet that is remembered, any number of times and anywhere, changes neither the
session nor what is heard of any other request. -/
lemma Remembers.inserted (h : s.Remembers e) {frame : Int} (hframe : e.frame = some frame)
    {steps : List Step} (hopen : .own (.operation .openCapture) ∉ steps)
    (hagain : ∀ d, .again d ∈ steps → d.redelivers e = true) :
    s.serveAll (steps.map Step.request) = s.serveAll (steps.filterMap Step.own?) ∧
    s.ownResponses steps = s.responses (steps.filterMap Step.own?) ∧
    ∀ v ∈ s.againVerdicts steps, v = .duplicate ∨ v = .detached := by
  induction steps generalizing s with
  | nil => exact ⟨rfl, rfl, fun v hv => absurd hv List.not_mem_nil⟩
  | cons step steps ih =>
    rw [List.mem_cons, not_or] at hopen
    obtain ⟨hfirst, hopen⟩ := hopen
    have hrest : ∀ d, .again d ∈ steps → d.redelivers e = true :=
      fun d hd => hagain d (List.mem_cons_of_mem _ hd)
    cases step with
    | own q =>
      have hq : q ≠ .operation .openCapture := by
        intro heq
        rw [heq] at hfirst
        exact hfirst rfl
      obtain ⟨hsession, hresponses, hverdicts⟩ := ih (h.serve hq) hopen hrest
      refine ⟨hsession, ?_, hverdicts⟩
      exact congrArg (s.respond q :: ·) hresponses
    | again d =>
      obtain ⟨v, hv, hpacket⟩ := h.packet_eq hframe (hagain d List.mem_cons_self)
      have hsame : (s.packet d).session = s := by rw [hpacket]
      obtain ⟨hsession, hresponses, hverdicts⟩ := ih h hopen hrest
      refine ⟨?_, ?_, ?_⟩
      · change (s.packet d).session.serveAll _ = _
        rw [hsame]
        exact hsession
      · change (s.packet d).session.ownResponses steps = _
        rw [hsame]
        exact hresponses
      · intro w hw
        rw [againVerdicts, hsame, List.mem_cons] at hw
        rcases hw with rfl | hw
        · rw [hpacket]
          exact hv
        · exact hverdicts w hw

/-- Packets that come again are harmless, whatever the session is that has accepted the packet and
whatever is asked of it until the next capture is opened.  Events of the same protocol, with a key
that agrees and the same frame may be inserted anywhere and in any number: none of them is accepted,
and the session, with all that is heard of the other requests, is the same as without them. -/
theorem redelivery (s : Session) {e : Event} (haccepted : (s.packet e).value = .accepted)
    {steps : List Step} (hopen : .own (.operation .openCapture) ∉ steps)
    (hagain : ∀ d, .again d ∈ steps → d.redelivers e = true) :
    (∀ v ∈ (s.packet e).session.againVerdicts steps, v = .duplicate ∨ v = .detached) ∧
    (s.packet e).session.ownResponses steps =
      (s.packet e).session.responses (steps.filterMap Step.own?) ∧
    (s.packet e).session.serveAll (steps.map Step.request) =
      (s.packet e).session.serveAll (steps.filterMap Step.own?) := by
  obtain ⟨frame, hframe⟩ := exists_frame_of_accepted haccepted
  obtain ⟨hsession, hresponses, hverdicts⟩ :=
    (remembers_of_accepted haccepted).inserted hframe hopen hagain
  exact ⟨hverdicts, hresponses, hsession⟩

/-- A packet of a call. -/
def taken : Event :=
  { protocol := .mgcp, frame := some 1, time := some (.whole 0), key := some (.whole 7) }

/-- The packet, come again without its time and with a payload of another protocol. -/
def mangled : Event :=
  { taken with time := none, payload := some Protocol.sip.emptyPayload }

/-- The packet comes again before and after a redraw, with another packet of its call in between,
and once more when the session is closed. -/
def mangledSteps : List Step :=
  [.again mangled, .own (.operation (.packet { taken with frame := some 2 })), .again mangled,
    .again taken, .own (.operation .draw), .again mangled, .own (.operation .closeCapture),
    .again mangled]

/-- The session has taken two packets, and the redraw shows one call with both of them. -/
theorem redelivery_mangledSteps :
    (∀ v ∈ ((Session.new {} none).packet taken).session.againVerdicts mangledSteps,
      v = .duplicate ∨ v = .detached) ∧
    (((Session.new {} none).packet taken).session.ownResponses mangledSteps).map (·.answer) =
      [.verdict .accepted, .drawn true, .done] ∧
    (((Session.new {} none).packet taken).session.serveAll
      (mangledSteps.map Step.request)).intake.store.published.map (·.packetCount) = [2] := by
  have hagain : ∀ d, .again d ∈ mangledSteps → d.redelivers taken = true := by
    intro d hd
    simp only [mangledSteps, List.mem_cons, Step.again.injEq, reduceCtorEq, List.not_mem_nil,
      or_false, false_or] at hd
    rcases hd with rfl | rfl | rfl | rfl | rfl <;> decide
  obtain ⟨hverdicts, hresponses, hsession⟩ :=
    redelivery (Session.new {} none) (e := taken) (by decide) (by decide) hagain
  refine ⟨hverdicts, ?_, ?_⟩
  · rw [hresponses]
    decide
  · rw [hsession]
    decide

end Session

end VoipCalls
