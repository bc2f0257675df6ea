import VoipCalls.Proofs.Intake.Refusal

/-!
# The decision on an event

What the tap decides on an event depends on the whole capture: on which packets were taken, and on
which keys have a call.  Both can be said in terms of the events that were accepted before it.
`Event.classAfter` asks the questions of the tap in their order, about nothing but the event, the
choice of flows and these earlier events.

`Intake.Follows.eventClass?_packet` says that an attached tap decides in just this way.  The one
event that falls in no class is one whose time is too large for a double: it stops the tap.
-/

namespace VoipCalls

/-! ## The classes of events -/

/-- What an attached tap makes of an event. -/
inductive EventClass where
  | malformed
  | duplicate
  | ignored
  | accepted
deriving DecidableEq

/-- The class that a verdict stands for.  A detached tap does not decide, and a number that cannot
be read stops the decision. -/
def Verdict.eventClass? : Verdict → Option EventClass
  | .accepted => some .accepted
  | .duplicate => some .duplicate
  | .ignored => some .ignored
  | .malformed _ => some .malformed
  | .detached | .timeOverflow | .missingNumber _ => none

namespace Event

/-- Whether two events belong to one call: their protocols are the same, and their keys agree. -/
def sharesCall (d e : Event) : Bool :=
  decide (d.protocol = e.protocol) && d.key.any fun k => e.key.any k.agrees

/-- Whether two events stand for the same packet of one call. -/
def redelivers (d e : Event) : Bool :=
  d.sharesCall e && decide (d.frame = e.frame)

/-- Whether an event lacks a frame or a time, or has a payload that is foreign to its protocol. -/
def isDeficient (e : Event) : Bool :=
  e.frame.isNone || e.time.isNone || e.payload.any fun p => p.kind != e.protocol.payloadKind

/-- The class of an event, if `earlier` are the events that were accepted before it. -/
def classAfter (flowShow : FlowShow) (earlier : List Event) (e : Event) : EventClass :=
  if e.key = none then .malformed
  else if e.frame ≠ none ∧ ∃ d ∈ earlier, d.redelivers e then .duplicate
  else if flowShow = .onlyInvites ∧ e.protocol = .sip ∧ (¬ ∃ d ∈ earlier, d.sharesCall e) ∧
      Text.toUpper (textOrEmpty e.method) ≠ "INVITE" then .ignored
  else if e.isDeficient then .malformed
  else .accepted

variable {d e : Event}

/-- Events of one call have the same protocol and the same key. -/
lemma sharesCall_iff : d.sharesCall e = true ↔ d.protocol = e.protocol ∧
    ∃ k, d.key = some k ∧ e.key = some k := by
  simp only [sharesCall, Bool.and_eq_true, decide_eq_true_eq, Option.any_eq_true,
    CorrelationKey.agrees_iff]
  refine and_congr_right fun _ => ⟨?_, ?_⟩
  · rintro ⟨k, hd, l, he, rfl⟩
    exact ⟨k, hd, he⟩
  · rintro ⟨k, hd, he⟩
    exact ⟨k, hd, k, he, rfl⟩

/-- A packet is delivered again if it has the same frame, too. -/
lemma redelivers_iff : d.redelivers e = true ↔ d.sharesCall e = true ∧ d.frame = e.frame := by
  simp [redelivers]

/-- A payload is foreign exactly if there is one and it is of another kind than its protocol. -/
lemma any_foreign_iff : (e.payload.any fun p => p.kind != e.protocol.payloadKind) = false ↔
    (e.payload.getD e.protocol.emptyPayload).kind = e.protocol.payloadKind := by
  cases e.payload with
  | none => exact iff_of_true rfl (Payload.kind_empty _)
  | some p => simp

/-- A deficient event cannot be stored. -/
lemma isStorable_of_isDeficient (h : e.isDeficient = true) : e.isStorable = false := by
  rw [Bool.eq_false_iff]
  intro he
  obtain ⟨⟨frame, hframe⟩, ⟨raw, -, htime, -⟩, hkind⟩ := isStorable_iff.mp he
  rw [isDeficient, hframe, htime, any_foreign_iff.mpr hkind] at h
  cases h

/-- An event that is not deficient can be stored, at another time if not at its own. -/
lemma isStorable_of_not_isDeficient (h : e.isDeficient = false) (t : Double) :
    (e.at t).isStorable = true ∧ (e.isStorable = true ∨ e.Overflows) := by
  simp only [isDeficient, Bool.or_eq_false_iff, Option.isNone_eq_false_iff,
    Option.isSome_iff_exists] at h
  obtain ⟨⟨hframe, raw, htime⟩, hforeign⟩ := h
  have hkind := any_foreign_iff.mp hforeign
  refine ⟨isStorable_iff.mpr ⟨hframe, ⟨_, t, rfl, rfl⟩, hkind⟩, ?_⟩
  cases hdouble : raw.toDouble? with
  | some time => exact Or.inl (isStorable_iff.mpr ⟨hframe, ⟨raw, time, htime, hdouble⟩, hkind⟩)
  | none =>
    obtain ⟨n, hwhole, hlarge⟩ := RawTime.toDouble?_eq_none_iff.mp hdouble
    rw [hwhole] at htime
    exact Or.inr ⟨n, htime, hlarge⟩

end Event

namespace Intake

variable {x : Intake} {log : List Entry} {e : Event}

/-! ## What was taken before -/

/-- A packet was seen exactly if one of the events that were accepted stands for it. -/
lemma Follows.hasSeen_iff (h : x.Follows log) {k : CorrelationKey} {frame : Int}
    (hkey : e.key = some k) (hframe : e.frame = some frame) :
    x.tap.hasSeen e.protocol k frame = true ↔
      ∃ d ∈ log.map (·.event), d.redelivers e = true := by
  rw [Tap.hasSeen_iff, h.seen]
  constructor
  · intro hin
    obtain ⟨a, ha, hsame⟩ := List.mem_map.mp hin
    obtain ⟨hprotocol, hown, hnumber⟩ := SeenPacket.mk.inj hsame
    obtain ⟨hstorable, hkeyed⟩ := h.complete a ha
    obtain ⟨l, hl⟩ := Option.isSome_iff_exists.mp hkeyed
    obtain ⟨⟨f, hf⟩, -⟩ := Event.isStorable_iff.mp hstorable
    rw [Event.callKey_eq hl] at hprotocol hown
    obtain rfl : l = k := hown
    have hf' : f = frame := by
      rw [Event.frameNumber, hf] at hnumber
      exact hnumber
    refine ⟨a.event, List.mem_map_of_mem ha, Event.redelivers_iff.mpr ⟨?_, ?_⟩⟩
    · exact Event.sharesCall_iff.mpr ⟨hprotocol, l, hl, hkey⟩
    · rw [hf, hframe, hf']
  · rintro ⟨d, hd, hsame⟩
    obtain ⟨a, ha, rfl⟩ := List.mem_map.mp hd
    obtain ⟨hshares, hsameFrame⟩ := Event.redelivers_iff.mp hsame
    obtain ⟨hprotocol, l, hl, hl'⟩ := Event.sharesCall_iff.mp hshares
    obtain rfl : l = k := Option.some.inj (hl'.symm.trans hkey)
    refine List.mem_map.mpr ⟨a, ha, ?_⟩
    rw [Entry.seenPacket, Event.callKey_eq hl, Event.frameNumber, hsameFrame, hframe, hprotocol]
    rfl

/-- The key of an event has a call exactly if one of the events that were accepted belongs to it. -/
lemma Follows.isSome_knownCall_iff (h : x.Follows log) {k : CorrelationKey}
    (hkey : e.key = some k) :
    (x.knownCall e).isSome = true ↔ ∃ d ∈ log.map (·.event), d.sharesCall e = true := by
  rw [knownCall_eq hkey, Option.isSome_iff_exists]
  constructor
  · rintro ⟨call, hcall⟩
    obtain ⟨a, ha, hentry⟩ := h.exists_of_mem_keys (Tap.mem_of_callFor hcall)
    obtain ⟨hprotocol, hown, -⟩ := KeyEntry.mk.inj hentry
    obtain ⟨l, hl⟩ := Option.isSome_iff_exists.mp (h.complete a ha).2
    rw [Event.callKey_eq hl] at hprotocol hown
    obtain rfl : l = k := hown
    exact ⟨a.event, List.mem_map_of_mem ha,
      Event.sharesCall_iff.mpr ⟨hprotocol, l, hl, hkey⟩⟩
  · rintro ⟨d, hd, hsame⟩
    obtain ⟨a, ha, rfl⟩ := List.mem_map.mp hd
    obtain ⟨hprotocol, l, hl, hl'⟩ := Event.sharesCall_iff.mp hsame
    obtain rfl : l = k := Option.some.inj (hl'.symm.trans hkey)
    have hin := h.keyEntry_mem ha
    rw [Entry.keyEntry, Event.callKey_eq hl, hprotocol] at hin
    exact Tap.exists_callFor_of_mem hin

/-- An event is left out exactly if the tap is to list INVITE dialogs only and it is of a SIP call
that no INVITE has opened. -/
lemma opensCall_eq_false_iff : x.tap.opensCall e = false ↔ x.tap.flowShow = .onlyInvites ∧
    e.protocol = .sip ∧ Text.toUpper (textOrEmpty e.method) ≠ "INVITE" := by
  cases hflow : x.tap.flowShow <;> simp [Tap.opensCall, hflow]

/-! ## The decision -/

/-- An event that gets as far as the store is accepted exactly if it is not deficient, unless its
time stops the decision. -/
lemma Follows.eventClass?_of_passes (h : x.Follows log) (hpass : x.Passes e)
    (htime : (x.packet e).1 ≠ .timeOverflow) :
    (x.packet e).1.eventClass? = some (if e.isDeficient then .malformed else .accepted) := by
  cases hdeficient : e.isDeficient with
  | true =>
    have hstorable := Event.isStorable_of_isDeficient hdeficient
    rw [hpass.packet_eq] at htime ⊢
    cases hanswer : (x.store.upsert e (x.knownCall e)).1 with
    | ok call =>
      rw [h.sound.isStorable_of_upsert hanswer] at hstorable
      cases hstorable
    | error refusal =>
      cases refusal with
      | malformed cause => rfl
      | timeOverflow =>
        rw [hanswer] at htime
        exact absurd rfl htime
      | missingNumber kind => exact absurd hanswer (Store.upsert_ne_missingNumber kind)
  | false =>
    have hother := Event.isStorable_of_not_isDeficient hdeficient .zero
    have haccepted : (x.packet e).1 = .accepted := by
      rcases hother.2 with hstorable | hoverflows
      · exact packet_accepted_iff.mpr ⟨hpass, _, h.upsert_fst hstorable⟩
      · have hlater : (x.packet (e.at .zero)).1 = .accepted :=
          packet_accepted_iff.mpr ⟨(passes_at_iff .zero).mpr hpass, _, h.upsert_fst hother.1⟩
        exact absurd ((packet_overflows_iff .zero).mpr ⟨hoverflows, hlater⟩) htime
    rw [haccepted]
    rfl

/-- An attached tap decides on an event as its class says, unless the time of the event stops it. -/
theorem Follows.eventClass?_packet (h : x.Follows log) (hattached : x.tap.attached = true)
    (htime : (x.packet e).1 ≠ .timeOverflow) :
    (x.packet e).1.eventClass? = some (e.classAfter x.tap.flowShow (log.map (·.event))) := by
  -- an event that was taken before belongs to a call that it may go on with
  have hshared : (∃ d ∈ log.map (·.event), d.redelivers e = true) →
      ∃ d ∈ log.map (·.event), d.sharesCall e = true := by
    rintro ⟨d, hd, hsame⟩
    exact ⟨d, hd, (Event.redelivers_iff.mp hsame).1⟩
  cases x.fate e with
  | detached hdetached =>
    rw [hattached] at hdetached
    cases hdetached
  | keyless _ hkey hpacket =>
    rw [hpacket, Event.classAfter, if_pos hkey]
    rfl
  | duplicate _ hkeyed frame hframe hseen hpacket =>
    obtain ⟨k, hkey⟩ := Option.isSome_iff_exists.mp hkeyed
    rw [Event.callKey_eq hkey] at hseen
    have hagain : e.frame ≠ none ∧ ∃ d ∈ log.map (·.event), d.redelivers e = true := by
      refine ⟨?_, (h.hasSeen_iff hkey hframe).mp hseen⟩
      rw [hframe]
      exact Option.some_ne_none frame
    rw [hpacket, Event.classAfter, if_neg (by simp [hkey]), if_pos hagain]
    rfl
  | ignored _ hkeyed hknown hopens hpacket =>
    obtain ⟨k, hkey⟩ := Option.isSome_iff_exists.mp hkeyed
    have hforeign : ¬ ∃ d ∈ log.map (·.event), d.sharesCall e = true := by
      intro hshares
      have hsome := (h.isSome_knownCall_iff hkey).mpr hshares
      rw [hknown] at hsome
      cases hsome
    obtain ⟨hflow, hsip, hmethod⟩ := opensCall_eq_false_iff.mp hopens
    rw [hpacket, Event.classAfter, if_neg (by simp [hkey]),
      if_neg (fun hagain => hforeign (hshared hagain.2)), if_pos ⟨hflow, hsip, hforeign, hmethod⟩]
    rfl
  | passed hpass hpacket =>
    obtain ⟨k, hkey⟩ := Option.isSome_iff_exists.mp hpass.keyed
    have hfresh : ¬ (e.frame ≠ none ∧ ∃ d ∈ log.map (·.event), d.redelivers e = true) := by
      rintro ⟨hnamed, hagain⟩
      obtain ⟨frame, hframe⟩ := Option.ne_none_iff_exists'.mp hnamed
      have hseen := (h.hasSeen_iff hkey hframe).mpr hagain
      have hunseen := hpass.fresh frame hframe
      rw [Event.callKey_eq hkey, hseen] at hunseen
      cases hunseen
    have hwelcome : ¬ (x.tap.flowShow = .onlyInvites ∧ e.protocol = .sip ∧
        (¬ ∃ d ∈ log.map (·.event), d.sharesCall e = true) ∧
        Text.toUpper (textOrEmpty e.method) ≠ "INVITE") := by
      rintro ⟨hflow, hsip, hforeign, hmethod⟩
      rcases hpass.welcome with hknown | hopens
      · exact hforeign ((h.isSome_knownCall_iff hkey).mp hknown)
      · rw [opensCall_eq_false_iff.mpr ⟨hflow, hsip, hmethod⟩] at hopens
        cases hopens
    rw [Event.classAfter, if_neg (by simp [hkey]), if_neg hfresh, if_neg hwelcome]
    exact h.eventClass?_of_passes hpass htime

end Intake

end VoipCalls
