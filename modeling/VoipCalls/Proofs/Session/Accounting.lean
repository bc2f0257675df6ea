import VoipCalls.Proofs.Session.Decisions
import VoipCalls.Proofs.Session.Presentation

/-!
# The accounts of a replay

A replay takes the packets of a capture through all parts of a session: the events of its messages
are accepted, ignored or malformed, and an accepted one adds to a record and to the sequence index.
The number that the replay answers with counts the accepted events, and all other accounts agree
with it (`Session.Accounts`, `Session.replay_accounts`).

No event of a capture is taken for a duplicate, since the frames of the events ascend
(`Event.ne_duplicate_of_mem_classified`).  Every SIP message is filed under its own identifier, so
that the records of a replay have different identifiers.
-/

namespace VoipCalls

/-! ## No duplicates -/

namespace Event

/-- Of two events of one packet of a call, none is of an earlier frame than the other. -/
lemma frameNumber_of_redelivers {d e : Event} (h : d.redelivers e = true) :
    d.frameNumber = e.frameNumber := by
  unfold frameNumber
  rw [(redelivers_iff.mp h).2]

/-- An event of a later frame than all accepted ones is no duplicate. -/
lemma classAfter_ne_duplicate {earlier : List Event} {e : Event}
    (hlater : ∀ d ∈ earlier, d.frameNumber < e.frameNumber) (flowShow : FlowShow) :
    e.classAfter flowShow earlier ≠ .duplicate := by
  have hfresh : ¬ (e.frame ≠ none ∧ ∃ d ∈ earlier, d.redelivers e = true) := by
    rintro ⟨-, d, hd, hagain⟩
    have hless := hlater d hd
    rw [frameNumber_of_redelivers hagain] at hless
    exact absurd hless (Int.lt_irrefl _)
  unfold classAfter
  rw [if_neg hfresh]
  split_ifs <;> simp

end Event

namespace Session

/-- Of events of ascending frames none is taken for a duplicate. -/
theorem ne_duplicate_of_mem_classified (flowShow : FlowShow) {earlier es : List Event}
    (h : (earlier ++ es).Pairwise fun d e => d.frameNumber < e.frameNumber) :
    ∀ p ∈ classified flowShow earlier es, p.2 ≠ .duplicate := by
  induction es generalizing earlier with
  | nil => exact fun p hp => absurd hp List.not_mem_nil
  | cons e es ih =>
    intro p hp
    rcases List.mem_cons.mp hp with rfl | hp
    · refine Event.classAfter_ne_duplicate (fun d hd => ?_) flowShow
      exact (List.pairwise_append.mp h).2.2 d hd e List.mem_cons_self
    · refine ih ?_ p hp
      split
      · rwa [List.append_assoc]
      · exact h.sublist ((List.Sublist.refl earlier).append (List.sublist_cons_self e es))

/-- Each of some events is given one class. -/
lemma length_classified (flowShow : FlowShow) (earlier es : List Event) :
    (classified flowShow earlier es).length = es.length := by
  induction es generalizing earlier with
  | nil => rfl
  | cons e es ih => exact congrArg Nat.succ (ih _)

/-- The classes together have as many members as there are events. -/
lemma length_eq_countP_classes (cs : List (Event × EventClass)) :
    cs.length = (cs.countP fun p => p.2 = .accepted) + (cs.countP fun p => p.2 = .ignored) +
      (cs.countP fun p => p.2 = .malformed) + cs.countP fun p => p.2 = .duplicate := by
  induction cs with
  | nil => rfl
  | cons p cs ih =>
    obtain ⟨e, c⟩ := p
    cases c <;> simp [ih] <;> omega

/-! ## The events that are handed to the tap -/

variable {s : Session} {r : Reply ℕ} {es : List Event} {packets : List Packet}

/-- Packets hand over their own events. -/
lemma deliveries_packets (es : List Event) : deliveries (es.map .packet) = es := by
  induction es with
  | nil => rfl
  | cons e es ih => exact congrArg (e :: ·) ih

/-- No event of a capture stops a session. -/
lemma timeOverflow_not_mem_verdicts (s : Session) (hes : ∀ e ∈ es, e ∈ Sip.events packets) :
    .timeOverflow ∉ s.verdicts (es.map .packet) := by
  induction es generalizing s with
  | nil => exact List.not_mem_nil
  | cons e es ih =>
    rw [List.map_cons, verdicts, List.mem_cons, not_or]
    refine ⟨?_, ih _ fun d hd => hes d (List.mem_cons_of_mem _ hd)⟩
    exact (Sip.packet_ne_timeOverflow s.intake (hes e List.mem_cons_self)).symm

/-- Feeding events counts what is appended to the sequence index. -/
lemma value_foldl_feed (r : Reply ℕ) (es : List Event) :
    (es.foldl feed r).value + r.session.intake.sequence.size =
      r.value + (es.foldl feed r).session.intake.sequence.size := by
  induction es generalizing r with
  | nil => rfl
  | cons e es ih =>
    have hstep : (feed r e).value + r.session.intake.sequence.size =
        r.value + (feed r e).session.intake.sequence.size := by
      change (if (r.session.intake.packet e).1 = .accepted then _ else _) + _ =
        _ + (r.session.intake.packet e).2.sequence.size
      rw [Intake.sequence_packet]
      split
      · change r.value + 1 + _ = r.value + (r.session.intake.sequence.items ++ [_]).length
        rw [List.length_append, List.length_singleton]
        exact Nat.add_right_comm _ _ _
      · rfl
    have hrest := ih (feed r e)
    rw [List.foldl_cons]
    omega

end Session

/-- The frames of what arrives are among those of the events. -/
lemma Intake.sublist_frame_arrivals (x : Intake) (es : List Event) :
    ((x.arrivals es).map (·.frame)).Sublist (es.map (·.frameNumber)) := by
  induction es generalizing x with
  | nil => exact List.Sublist.refl _
  | cons e es ih =>
    unfold arrivals
    split
    · exact (ih _).cons_cons _
    · exact (ih _).cons _

/-! ## Filing by dialogs -/

/-- An event of SIP is filed by its dialog if its key is the identifier by which its payload names
the dialog. -/
structure Event.FiledByDialog (e : Event) : Prop where
  /-- The event is of SIP. -/
  protocol : e.protocol = .sip
  /-- Its key is the identifier of the dialog. -/
  key : ∃ p, e.payload = some p ∧ e.key = p.dialog?.map .text

/-- An event with a key that is filed by its dialog names the dialog. -/
lemma Event.FiledByDialog.exists_dialog {e : Event} (h : e.FiledByDialog)
    (hkeyed : e.key.isSome = true) :
    ∃ p id, e.payload = some p ∧ p.dialog? = some id ∧ e.callKey = (.sip, .text id) := by
  obtain ⟨p, hpayload, hkey⟩ := h.key
  cases hdialog : p.dialog? with
  | none =>
    rw [hkey, hdialog] at hkeyed
    cases hkeyed
  | some id =>
    rw [hdialog] at hkey
    refine ⟨p, id, hpayload, hdialog, ?_⟩
    rw [Event.callKey_eq hkey, h.protocol]

/-- The events of a capture are filed by their dialogs. -/
lemma Sip.filedByDialog_of_mem_events {packets : List Packet} {e : Event}
    (he : e ∈ Sip.events packets) : e.FiledByDialog := by
  obtain ⟨first, -, p, -, frame, hpacket⟩ := Sip.exists_packet_of_mem_events he
  obtain ⟨-, info, hpayload, hkey⟩ := Sip.identifier_of_packetEvent? hpacket
  exact ⟨(Sip.of_packetEvent? hpacket).1, .sip info, hpayload, hkey⟩

namespace Intake

variable {x : Intake} {log : List Entry}

/-- If all events are filed by their dialogs, every record names a dialog, and it is the record that
is found for the identifier of the dialog. -/
theorem Follows.dialog_record (h : x.Follows log) (hlog : ∀ a ∈ log, a.event.FiledByDialog) :
    ∀ r ∈ x.store.working, ∃ id, r.payload.dialog? = some id ∧
      x.tap.callFor .sip (.text id) = some r.callId := by
  intro r hr
  obtain ⟨i, hi⟩ := List.mem_iff_getElem?.mp hr
  obtain ⟨entry, hentry, hcall⟩ := h.exists_keyEntry (List.getElem?_eq_some_iff.mp hi).1
  obtain ⟨a, ha, rfl⟩ := h.exists_of_mem_keys hentry
  obtain ⟨p, id, -, -, hown⟩ := (hlog a ha).exists_dialog (h.complete a ha).2
  refine ⟨id, ?_, ?_⟩
  · -- all events of the call have its one key, so that they name the same dialog
    rw [h.records] at hi
    refine CallRecord.dialog?_ofEvents hi fun e he => ?_
    have hin := mem_eventsOf.mp he
    obtain ⟨p', id', hpayload, hdialog, hkey⟩ :=
      (hlog _ hin).exists_dialog (h.complete _ hin).2
    have hsame := h.eq_of_call_eq (h.keyEntry_mem hin) hentry hcall.symm
    have hkeys : e.callKey = a.event.callKey :=
      Prod.ext (KeyEntry.mk.inj hsame).1 (KeyEntry.mk.inj hsame).2.1
    rw [hkey, hown] at hkeys
    obtain rfl : id' = id := CorrelationKey.text.inj (Prod.mk.inj hkeys).2
    exact ⟨p', hpayload, hdialog⟩
  · rw [h.callFor_eq_some, h.sound.numbered i r hi]
    rw [← hcall]
    unfold Entry.keyEntry at hentry
    rwa [hown] at hentry

end Intake

namespace Session

variable {s : Session} {packets : List Packet}

/-! ## The accounts -/

/-- The accounts of a replay of some packets agree with each other: nothing is lost on the way from
the packets to the records and the sequence index, nothing is taken twice, and nothing is filed
under another dialog than its own. -/
structure Accounts (packets : List Packet) (r : Reply ℕ) : Prop where
  /-- The answer is the size of the sequence index. -/
  sequence : r.session.intake.sequence.size = r.value
  /-- The published records together count as many packets. -/
  records : (r.session.intake.store.published.map (·.packetCount)).sum = r.value
  /-- All other events of the capture are ignored or malformed. -/
  events : r.value + r.session.intake.tap.ignored + r.session.intake.tap.malformed =
    (Sip.events packets).length
  /-- The frames of the sequence index ascend. -/
  ascending : r.session.intake.sequence.items.Pairwise fun q q' => q.frame < q'.frame
  /-- Each of them is the number of a packet of the capture that carries an event, counted from
  one. -/
  placed : ∀ q ∈ r.session.intake.sequence.items, ∃ i < packets.length,
    q.frame = (i : Int) + 1 ∧ (Sip.eventAt? packets i).isSome = true
  /-- Each published record is found by the identifier that it knows of its dialog. -/
  filed : ∀ a ∈ r.session.intake.store.published, ∃ id, a.payload.dialog? = some id ∧
    r.session.intake.tap.callFor .sip (.text id) = some a.callId ∧
    r.session.intake.store.get? a.callId = some a
  /-- No two of them know the same identifier. -/
  distinct : (r.session.intake.store.published.map (·.payload.dialog?)).Nodup

/-- Each frame of what arrives of a capture is the number of a packet, counted from one. -/
lemma exists_place_of_mem_arrivals (x : Intake) {q : SequenceEvent}
    (hq : q ∈ x.arrivals (Sip.events packets)) : ∃ i < packets.length,
      q.frame = (i : Int) + 1 ∧ (Sip.eventAt? packets i).isSome = true := by
  have hin := (x.sublist_frame_arrivals (Sip.events packets)).subset (List.mem_map_of_mem hq)
  obtain ⟨e, he, hframe⟩ := List.mem_map.mp hin
  obtain ⟨i, hi, hevent⟩ := Sip.mem_events_iff.mp he
  refine ⟨i, hi, ?_, by rw [hevent]; rfl⟩
  rw [← hframe, Event.frameNumber, Sip.frame_eventAt? hevent]
  rfl

/-- What is fed of a capture is counted. -/
lemma value_plainReplay (s : Session) (packets : List Packet) :
    (s.plainReplay packets).value = (s.plainReplay packets).session.intake.sequence.size :=
  (value_foldl_feed { value := 0, session := s.openCapture } (Sip.events packets)).trans
    (Nat.zero_add _)

/-- Feeding the events of a capture is a run of the session. -/
lemma session_plainReplay (s : Session) (packets : List Packet) :
    (s.plainReplay packets).session = s.openCapture.run ((Sip.events packets).map .packet) :=
  session_foldl_feed _ _

/-- The tallies after the plain replay of a capture are the sizes of the classes of its events. -/
lemma tally_plainReplay (s : Session) (packets : List Packet) {c : EventClass}
    (hc : c ≠ .duplicate) : (s.plainReplay packets).session.intake.tally c =
      (classified s.intake.tap.flowShow [] (Sip.events packets)).countP fun p => p.2 = c := by
  have hstart : Intake.OpensWithInvite s.openCapture.intake.tap.flowShow [] := by
    intro _ call e es hevents
    cases hevents
  have hopen : .openCapture ∉ (Sip.events packets).map Operation.packet := by simp
  have hclose : .closeCapture ∉ (Sip.events packets).map Operation.packet := by simp
  have htime :=
    s.openCapture.timeOverflow_not_mem_verdicts fun e (he : e ∈ Sip.events packets) => he
  have hdecides := (follows_openCapture s).decides_run rfl hstart hopen hclose htime
  have hnone : s.openCapture.intake.tally c = 0 := by cases c <;> rfl
  have htally := hdecides.tally c hc
  rw [deliveries_packets, hnone, Nat.zero_add] at htally
  rw [session_plainReplay]
  exact htally

/-- What is not accepted of a capture is ignored or malformed. -/
lemma length_events_eq (s : Session) (packets : List Packet) :
    (s.plainReplay packets).value + (s.plainReplay packets).session.intake.tap.ignored +
      (s.plainReplay packets).session.intake.tap.malformed = (Sip.events packets).length := by
  have hunique : ((classified s.intake.tap.flowShow [] (Sip.events packets)).countP
      fun p => p.2 = .duplicate) = 0 := by
    rw [List.countP_eq_zero]
    intro p hp
    have hascending : ([] ++ Sip.events packets).Pairwise fun (d e : Event) =>
        d.frameNumber < e.frameNumber := Sip.pairwise_frameNumber_events packets
    simpa using ne_duplicate_of_mem_classified s.intake.tap.flowShow hascending p hp
  have haccepted := s.tally_plainReplay packets (c := .accepted) (by decide)
  have hignored := s.tally_plainReplay packets (c := .ignored) (by decide)
  have hmalformed := s.tally_plainReplay packets (c := .malformed) (by decide)
  have hlength := length_classified s.intake.tap.flowShow [] (Sip.events packets)
  rw [length_eq_countP_classes, hunique, ← haccepted, ← hignored, ← hmalformed] at hlength
  rw [value_plainReplay]
  exact hlength

/-- If every record names a dialog that it is found for, they name different dialogs. -/
lemma nodup_dialog? {x : Intake} {log : List Intake.Entry} (h : x.Follows log)
    (hfiled : ∀ a ∈ x.store.working, ∃ id, a.payload.dialog? = some id ∧
      x.tap.callFor .sip (.text id) = some a.callId) :
    (x.store.working.map (·.payload.dialog?)).Nodup := by
  have hcalls := List.pairwise_map.mp h.nodup_callId
  refine List.pairwise_map.mpr (hcalls.imp_of_mem fun {a b} ha hb hne hsame => hne ?_)
  obtain ⟨id, hid, hcall⟩ := hfiled a ha
  obtain ⟨id', hid', hcall'⟩ := hfiled b hb
  obtain rfl : id = id' := by
    rw [hid, hid'] at hsame
    exact Option.some.inj hsame
  rw [hcall] at hcall'
  exact Option.some.inj hcall'

/-- The accounts of the plain replay agree. -/
theorem accounts_plainReplay (h : s.intake.store.depth = 0) (packets : List Packet) :
    Accounts packets (s.plainReplay packets) := by
  obtain ⟨log, hlog, hevents⟩ := s.exists_follows_gathered (Sip.events packets)
  rw [← session_plainReplay] at hlog
  have hpublished : (s.plainReplay packets).session.intake.store.published =
      (s.plainReplay packets).session.intake.store.working :=
    (hlog.coherent.settled ((frame_foldl_feed _ _).2.trans h)).1
  have hitems : (s.plainReplay packets).session.intake.sequence.items =
      s.openCapture.intake.arrivals (Sip.events packets) := by
    rw [session_plainReplay, items_run_packets]
    rfl
  have hfiled := hlog.intake.dialog_record fun a ha =>
    Sip.filedByDialog_of_mem_events (hevents a ha)
  constructor
  case sequence => exact (s.value_plainReplay packets).symm
  case records =>
    have hlength := hlog.intake.events.length_eq
    rw [List.length_map, List.length_map] at hlength
    rw [hpublished, hlog.intake.sum_packetCount, ← hlength, value_plainReplay]
    rfl
  case events => exact s.length_events_eq packets
  case ascending =>
    have hframes := (List.pairwise_map.mpr (Sip.pairwise_frameNumber_events packets)).sublist
      (s.openCapture.intake.sublist_frame_arrivals (Sip.events packets))
    rw [hitems]
    exact List.pairwise_map.mp hframes
  case placed =>
    rw [hitems]
    exact fun q hq => exists_place_of_mem_arrivals s.openCapture.intake hq
  case filed =>
    intro a ha
    rw [hpublished] at ha
    obtain ⟨id, hid, hcall⟩ := hfiled a ha
    obtain ⟨i, hi⟩ := List.mem_iff_getElem?.mp ha
    refine ⟨id, hid, hcall, ?_⟩
    rw [hlog.coherent.numbered i a hi, Store.get?_natCast, hpublished, hi]
  case distinct =>
    rw [hpublished]
    exact nodup_dialog? hlog.intake hfiled

/-- Whether a redraw is due makes no difference to the accounts. -/
lemma Accounts.quiet {r r' : Reply ℕ} (h : Accounts packets r) (hvalue : r'.value = r.value)
    (hintake : r'.session.intake = r.session.intake.quiet) : Accounts packets r' where
  sequence := by rw [hvalue, hintake]; exact h.sequence
  records := by rw [hvalue, hintake]; exact h.records
  events := by rw [hvalue, hintake]; exact h.events
  ascending := by rw [hintake]; exact h.ascending
  placed := by rw [hintake]; exact h.placed
  filed := by rw [hintake]; exact h.filed
  distinct := by rw [hintake]; exact h.distinct

/-- Outside of all batches, the accounts of every replay agree, whatever the settings of the session
are, whatever it has gathered before, and whatever the packets and the size of the batches are. -/
theorem replay_accounts (h : s.intake.store.depth = 0) (packets : List Packet) (batchSize : Int) :
    Accounts packets (s.replay packets batchSize) :=
  (accounts_plainReplay h packets).quiet (s.replay_agrees packets batchSize).value
    (intake_replay h packets batchSize)

/-- A call that is answered, a request of another dialog, an INVITE without a Call-ID, a packet
without addresses, one that carries something else, and another call. -/
def mixedCapture : List Packet :=
  let ends : Option PacketEnds := some ⟨"10.0.0.1", "10.0.0.2"⟩
  [{ time := .zero, ends, payload := inviteOf "A" },
    { time := .zero, ends, payload := ringingOf "A" },
    { time := .zero, ends, payload := Text.Utf8.encode
        "BYE sip:b SIP/2.0\r\nCall-ID: B\r\n\r\n".toList },
    { time := .zero, ends, payload := Text.Utf8.encode "INVITE sip:b SIP/2.0\r\n\r\n".toList },
    { time := .zero, payload := inviteOf "A" },
    { time := .zero, ends, payload := Text.Utf8.encode "RTP".toList },
    { time := .zero, ends, payload := inviteOf "C" }]

/-- Of the five events of the capture three are accepted, and the last of their frames is that of
the last packet. -/
theorem replay_mixedCapture :
    Accounts mixedCapture ((Session.new {} none).replay mixedCapture 2) ∧
    ((Session.new {} none).replay mixedCapture 2).value = 3 ∧
    (Sip.events mixedCapture).length = 5 ∧
    ((Session.new {} none).replay mixedCapture 2).session.intake.sequence.items.map (·.frame) =
      [1, 2, 7] :=
  ⟨replay_accounts rfl mixedCapture 2, by decide +kernel, by decide +kernel, by decide +kernel⟩

end Session

end VoipCalls
