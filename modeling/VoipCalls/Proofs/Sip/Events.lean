import VoipCalls.Proofs.Call.Growth
import VoipCalls.Proofs.Number.Finite
import VoipCalls.Sip.Events

/-!
# The events of a capture

Every event of a capture comes from one of its packets and is of SIP, and its time is counted from
the first packet (`Sip.exists_packet_of_mem_events`).  If the times of the packets are finite, those
of the events are numbers (`Sip.isNaN_seconds`).
-/

namespace VoipCalls.Sip

variable {e : Event}

/-- The event of a SIP message is of SIP, and has the time that it is given. -/
lemma of_messageEvent? {frame : ℕ} {time : Double} {ends : PacketEnds} {m : Message}
    (he : messageEvent? frame time ends m = some e) :
    e.protocol = .sip ∧ e.time = some (.real time) := by
  unfold messageEvent? at he
  dsimp only at he
  split at he
  · cases he
  · obtain rfl := Option.some.inj he
    exact ⟨rfl, rfl⟩

/-- The event of a packet is of SIP, and its time is counted from the first packet. -/
lemma of_packetEvent? {first : Double} {frame : ℕ} {p : Packet}
    (he : packetEvent? first frame p = some e) :
    e.protocol = .sip ∧ e.time = some (.real (p.time.sub first)) := by
  unfold packetEvent? at he
  split at he
  · cases he
  · dsimp only at he
    split at he
    · exact of_messageEvent? he
    · cases he

/-- The event of a SIP message has the frame that it is given, and its payload names the call by the
identifier that is its key. -/
lemma identifier_of_messageEvent? {frame : ℕ} {time : Double} {ends : PacketEnds} {m : Message}
    (he : messageEvent? frame time ends m = some e) :
    e.frame = some (frame : Int) ∧
      ∃ info : SipInfo, e.payload = some (.sip info) ∧ e.key = info.callIdentifier.map .text := by
  unfold messageEvent? at he
  dsimp only at he
  split at he
  · cases he
  · obtain rfl := Option.some.inj he
    exact ⟨rfl, _, rfl, rfl⟩

/-- So has the event of a packet. -/
lemma identifier_of_packetEvent? {first : Double} {frame : ℕ} {p : Packet}
    (he : packetEvent? first frame p = some e) :
    e.frame = some (frame : Int) ∧
      ∃ info : SipInfo, e.payload = some (.sip info) ∧ e.key = info.callIdentifier.map .text := by
  unfold packetEvent? at he
  split at he
  · cases he
  · dsimp only at he
    split at he
    · exact identifier_of_messageEvent? he
    · cases he

/-- The event of a packet can be stored. -/
lemma isStorable_of_packetEvent? {first : Double} {frame : ℕ} {p : Packet}
    (he : packetEvent? first frame p = some e) : e.isStorable = true := by
  obtain ⟨hprotocol, htime⟩ := of_packetEvent? he
  obtain ⟨hframe, info, hpayload, -⟩ := identifier_of_packetEvent? he
  refine Event.isStorable_iff.mpr ⟨⟨_, hframe⟩, ⟨_, p.time.sub first, htime, rfl⟩, ?_⟩
  rw [hpayload, hprotocol]
  rfl

/-! ## The places of the events -/

/-- The event at a place of a capture, if the packet that stands there carries a message. -/
def eventAt? (packets : List Packet) (i : ℕ) : Option Event :=
  packets.head?.bind fun first => packets[i]?.bind (packetEvent? first.time (i + 1))

/-- The events of a capture are those at its places. -/
lemma events_eq (packets : List Packet) :
    events packets = (List.range packets.length).filterMap (eventAt? packets) := by
  cases packets with
  | nil => rfl
  | cons first packets =>
    have hplaces : ((first :: packets).mapIdx fun i q => packetEvent? first.time (i + 1) q) =
        (List.range (first :: packets).length).map (eventAt? (first :: packets)) := by
      refine List.ext_getElem (by simp) fun i hi hi' => ?_
      rw [List.length_mapIdx] at hi
      rw [List.getElem_mapIdx, List.getElem_map, List.getElem_range, eventAt?, List.head?_cons,
        List.getElem?_eq_getElem hi]
      rfl
    rw [events, hplaces, List.filterMap_map]
    rfl

/-- The event at a place is the event of the packet that stands there. -/
lemma exists_of_eventAt? {packets : List Packet} {i : ℕ} (he : eventAt? packets i = some e) :
    ∃ first p, packets[i]? = some p ∧ packetEvent? first (i + 1) p = some e := by
  obtain ⟨first, -, hpacket⟩ := Option.bind_eq_some_iff.mp he
  obtain ⟨p, hp, hevent⟩ := Option.bind_eq_some_iff.mp hpacket
  exact ⟨first.time, p, hp, hevent⟩

/-- And the packet has one time that is counted from. -/
lemma exists_eventAt?_eq {packets : List Packet} {i : ℕ} {p : Packet} (hp : packets[i]? = some p) :
    ∃ first, eventAt? packets i = packetEvent? first (i + 1) p := by
  cases packets with
  | nil => cases hp
  | cons first packets => exact ⟨first.time, by rw [eventAt?, hp]; rfl⟩

/-- The events of a capture are those that stand at a place. -/
lemma mem_events_iff {packets : List Packet} :
    e ∈ events packets ↔ ∃ i < packets.length, eventAt? packets i = some e := by
  rw [events_eq, List.mem_filterMap]
  simp only [List.mem_range]

/-- The event at a place has the number of the place, counted from one, as its frame. -/
lemma frame_eventAt? {packets : List Packet} {i : ℕ} (he : eventAt? packets i = some e) :
    e.frame = some ((i : Int) + 1) := by
  obtain ⟨first, p, -, hevent⟩ := exists_of_eventAt? he
  exact (identifier_of_packetEvent? hevent).1

/-- The event at a place is the one of the capture that has the number of the place as its frame. -/
lemma eventAt?_eq_some_iff {packets : List Packet} {i : ℕ} :
    eventAt? packets i = some e ↔ e ∈ events packets ∧ e.frame = some ((i : Int) + 1) := by
  constructor
  · intro he
    obtain ⟨-, p, hp, -⟩ := exists_of_eventAt? he
    have hi := (List.getElem?_eq_some_iff.mp hp).1
    exact ⟨mem_events_iff.mpr ⟨i, hi, he⟩, frame_eventAt? he⟩
  · rintro ⟨hmem, hframe⟩
    obtain ⟨j, -, hj⟩ := mem_events_iff.mp hmem
    rw [frame_eventAt? hj, Option.some_inj] at hframe
    obtain rfl : j = i := by omega
    exact hj

/-- Captures of one length have the same events exactly if they have them place by place. -/
lemma events_eq_iff {ps qs : List Packet} (hlength : qs.length = ps.length) :
    events qs = events ps ↔ ∀ i, eventAt? qs i = eventAt? ps i := by
  constructor
  · intro hsame i
    refine Option.ext fun e => ?_
    rw [eventAt?_eq_some_iff, eventAt?_eq_some_iff, hsame]
  · intro hplaces
    rw [events_eq, events_eq, hlength, funext hplaces]

/-- The frames of the events of a capture ascend. -/
theorem pairwise_frameNumber_events (packets : List Packet) :
    (events packets).Pairwise fun d e => d.frameNumber < e.frameNumber := by
  rw [events_eq, List.pairwise_filterMap]
  refine List.pairwise_lt_range.imp fun {i j} hij d hd e he => ?_
  rw [Event.frameNumber, Event.frameNumber, frame_eventAt? hd, frame_eventAt? he]
  change (i : Int) + 1 < (j : Int) + 1
  omega

/-! ## Another packet at a place -/

section Replaced

variable {p q : Packet} {before after : List Packet}

/-- The event at a place is told by the time of the first packet and by the packet at the place. -/
lemma eventAt?_eq (packets : List Packet) (i : ℕ) :
    eventAt? packets i = (packets.head?.map (·.time)).bind fun first =>
      packets[i]?.bind (packetEvent? first (i + 1)) := by
  unfold eventAt?
  cases packets.head? <;> rfl

/-- The packet at the place behind some packets. -/
lemma getElem?_replaced (p : Packet) : (before ++ p :: after)[before.length]? = some p := by
  simp

/-- The event at the place of a packet is one of the packet. -/
lemma exists_packetEvent? (he : eventAt? (before ++ p :: after) before.length = some e) :
    ∃ first, packetEvent? first (before.length + 1) p = some e := by
  obtain ⟨first, r, hr, hevent⟩ := exists_of_eventAt? he
  obtain rfl : p = r := Option.some.inj ((getElem?_replaced p).symm.trans hr)
  exact ⟨first, hevent⟩

/-- A packet of the same time leaves the time that is counted from. -/
lemma firstTime_replaced (htime : q.time = p.time) :
    (before ++ q :: after).head?.map (·.time) = (before ++ p :: after).head?.map (·.time) := by
  cases before with
  | nil => exact congrArg some htime
  | cons first before => rfl

/-- Such a packet leaves the events at the other places. -/
lemma eventAt?_replaced (htime : q.time = p.time) {i : ℕ} (hi : i ≠ before.length) :
    eventAt? (before ++ q :: after) i = eventAt? (before ++ p :: after) i := by
  have hplace : (before ++ q :: after)[i]? = (before ++ p :: after)[i]? := by
    rw [List.getElem?_append, List.getElem?_append]
    split
    · rfl
    · rw [List.getElem?_cons, List.getElem?_cons, if_neg (by omega), if_neg (by omega)]
  rw [eventAt?_eq, eventAt?_eq, firstTime_replaced htime, hplace]

end Replaced

/-! ## Where the events come from -/

/-- Every event of a capture comes from a packet. -/
theorem exists_packet_of_mem_events {packets : List Packet} (he : e ∈ events packets) :
    ∃ first ∈ packets, ∃ p ∈ packets, ∃ frame : ℕ, packetEvent? first.time frame p = some e := by
  unfold events at he
  cases packets with
  | nil => exact absurd he List.not_mem_nil
  | cons first packets =>
    obtain ⟨event, hevent, hsome⟩ := List.mem_filterMap.mp he
    obtain ⟨i, hi, hpacket⟩ := List.mem_mapIdx.mp hevent
    obtain rfl : event = some e := hsome
    exact ⟨first, List.mem_cons_self, _, List.getElem_mem hi, i + 1, hpacket⟩

/-- The times of the events of a capture are numbers, if the times of its packets are finite. -/
lemma isNaN_seconds {packets : List Packet} (h : ∀ p ∈ packets, p.time.isFinite = true) :
    ∀ e ∈ events packets, e.seconds.isNaN = false := by
  intro e he
  obtain ⟨first, hfirst, p, hp, frame, hpacket⟩ := exists_packet_of_mem_events he
  unfold Event.seconds
  rw [(of_packetEvent? hpacket).2]
  exact Double.isNaN_sub (h p hp) (h first hfirst)

/-- Every event of a capture is of SIP. -/
lemma protocol_events (packets : List Packet) : ∀ e ∈ events packets, e.protocol = .sip := by
  intro e he
  obtain ⟨first, -, p, -, frame, hpacket⟩ := exists_packet_of_mem_events he
  exact (of_packetEvent? hpacket).1

end VoipCalls.Sip
