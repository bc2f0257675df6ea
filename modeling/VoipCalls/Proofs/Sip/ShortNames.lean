import VoipCalls.Proofs.Intake.Acceptance
import VoipCalls.Proofs.Sip.Events
import VoipCalls.Proofs.Sip.Renaming

/-!
# Short header names in a capture

`Sip.Shortens` relates two packets of which the second carries the text of the first with the short
header names in the place of the full ones.  The texts are compared as they are read, with line
feeds for line breaks.

If the first has no short names, the events of the two packets differ at most in the identifier of
the call, which in the second is the value of the header whatever it is
(`Sip.packetEvent?_of_shortens`).  So an empty identifier is no identifier under the full name but
is one under the short name.  `Sip.events_shortNames` says what follows for a capture and for the
tap, and `Sip.events_emptyIdentifier` shows two such packets.
-/

namespace VoipCalls

/-- The payload of a SIP call with another identifier. -/
def Payload.withIdentifier (id? : Option String) : Payload → Payload
  | .sip info => .sip { info with callIdentifier := id? }
  | p => p

/-- The event with another identifier of its call. -/
def Event.withIdentifier (id? : Option String) (e : Event) : Event :=
  { e with key := id?.map .text, payload := e.payload.map (·.withIdentifier id?) }

namespace Sip

variable {cs : List Char} {m : Message} {p q : Packet}

/-! ## Events -/

/-- The event of a message with short names is that of the message, with the value of the header as
the identifier of the call. -/
lemma messageEvent?_shortNamed (h : (Message.ofUnified cs).HasNoShortNames) (frame : ℕ)
    (time : Double) (ends : PacketEnds) :
    messageEvent? frame time ends (Message.ofUnified (shortNamed cs)) =
      (messageEvent? frame time ends (Message.ofUnified cs)).map
        (·.withIdentifier ((Message.ofUnified cs).header? "call-id")) := by
  obtain ⟨hs, -, hshort⟩ := ofUnified_shortNamed cs
  have hstart : (Message.ofUnified (shortNamed cs)).startLine =
      (Message.ofUnified cs).startLine := by rw [hshort]
  have hbody : (Message.ofUnified (shortNamed cs)).body = (Message.ofUnified cs).body := by
    rw [hshort]
  have hcallId : shortName? "call-id" = some "i" := rfl
  have hfrom : shortName? "from" = some "f" := rfl
  have hto : shortName? "to" = some "t" := rfl
  unfold messageEvent?
  dsimp only
  rw [headerOr?_shortNamed h hcallId, headerOr?_shortNamed h hfrom, headerOr?_shortNamed h hto,
    headerOr?_of_hasNoShortNames h hfrom, headerOr?_of_hasNoShortNames h hto, identity?_filter,
    identity?_filter, (header?_shortNamed h).2, hstart, hbody]
  generalize Message.ofUnified cs = m
  split <;> rfl

/-- The identifier of the call in the event of a message without short names is the value of the
header, unless that is empty. -/
lemma eq_withIdentifier_of_messageEvent? {frame : ℕ} {time : Double} {ends : PacketEnds} {e : Event}
    (h : m.HasNoShortNames) (he : messageEvent? frame time ends m = some e) :
    e = e.withIdentifier ((m.header? "call-id").filter (!·.isEmpty)) := by
  have hcallId := headerOr?_of_hasNoShortNames h (rfl : shortName? "call-id" = some "i")
  unfold messageEvent? at he
  dsimp only at he
  rw [hcallId] at he
  split at he
  · cases he
  · rw [← Option.some.inj he]
    rfl

/-! ## Packets -/

/-- What a packet carries, as a text whose line breaks are line feeds. -/
def carriedText (p : Packet) : List Char :=
  Text.unifyBreaks (Text.Utf8.decodeLossy p.payload)

/-- The identifier of the call under its full name, in the message that a packet carries. -/
def fullCallId? (p : Packet) : Option String :=
  (Message.ofUnified (carriedText p)).header? "call-id"

/-- The second packet carries the message of the first, which has no short names, with the short
names in the place of the full ones. -/
structure Shortens (p q : Packet) : Prop where
  /-- The packets are of one time. -/
  time : q.time = p.time
  /-- They have the same addresses. -/
  ends : q.ends = p.ends
  /-- The first has no header under a short name. -/
  full : (Message.ofUnified (carriedText p)).HasNoShortNames
  /-- The second carries the text of the first with the short names. -/
  text : carriedText q = shortNamed (carriedText p)

/-- Whether a packet names the version does not change with its line breaks. -/
lemma occursIn_version_iff (p : Packet) :
    Text.occursIn version.toList (Text.Utf8.decodeLossy p.payload) = true ↔
      version.toList <:+: carriedText p := by
  rw [Text.occursIn, Text.isSome_cutAt_iff, carriedText,
    Text.infix_unifyBreaks_iff (by decide) (by decide)]

/-- The event of the second packet is that of the first, with the value of the header as the
identifier of the call. -/
lemma packetEvent?_of_shortens (h : Shortens p q) (first : Double) (frame : ℕ) :
    packetEvent? first frame q =
      (packetEvent? first frame p).map (·.withIdentifier (fullCallId? p)) := by
  have hoccurs : Text.occursIn version.toList (Text.Utf8.decodeLossy q.payload) =
      Text.occursIn version.toList (Text.Utf8.decodeLossy p.payload) := by
    rw [Bool.eq_iff_iff, occursIn_version_iff, occursIn_version_iff, h.text,
      version_infix_shortNamed]
  have hmessage := fun ends => messageEvent?_shortNamed h.full frame (p.time.sub first) ends
  unfold packetEvent?
  rw [h.ends, h.time]
  cases p.ends with
  | none => rfl
  | some ends =>
    dsimp only
    rw [hoccurs]
    split
    · have htext := h.text
      unfold carriedText at htext hmessage
      rw [htext]
      exact hmessage ends
    · rfl

/-- So it is in the event of a packet. -/
lemma eq_withIdentifier_of_packetEvent? {first : Double} {frame : ℕ} {e : Event}
    (h : (Message.ofUnified (carriedText p)).HasNoShortNames)
    (he : packetEvent? first frame p = some e) :
    e = e.withIdentifier ((fullCallId? p).filter (!·.isEmpty)) := by
  unfold packetEvent? at he
  split at he
  · cases he
  · dsimp only at he
    split at he
    · exact eq_withIdentifier_of_messageEvent? h he
    · cases he

/-- If the header is not there with an empty value, the identifier stays. -/
lemma withIdentifier_eq_self {first : Double} {frame : ℕ} {e : Event}
    (h : (Message.ofUnified (carriedText p)).HasNoShortNames) (hfilled : fullCallId? p ≠ some "")
    (he : packetEvent? first frame p = some e) : e.withIdentifier (fullCallId? p) = e := by
  have hkept : (fullCallId? p).filter (!·.isEmpty) = fullCallId? p := by
    cases hcallId : fullCallId? p with
    | none => rfl
    | some v =>
      have hv : v ≠ "" := fun hv => hfilled (hcallId.trans (congrArg some hv))
      simp [Option.filter, hv]
  have hown := eq_withIdentifier_of_packetEvent? h he
  rw [hkept] at hown
  exact hown.symm

/-- If it is, the event has no key. -/
lemma key_eq_none_of_empty {first : Double} {frame : ℕ} {e : Event}
    (h : (Message.ofUnified (carriedText p)).HasNoShortNames) (hempty : fullCallId? p = some "")
    (he : packetEvent? first frame p = some e) : e.key = none := by
  rw [eq_withIdentifier_of_packetEvent? h he, hempty]
  rfl

/-- Whatever the identifier is, an event with an identifier can be stored if it could be stored
before. -/
lemma isStorable_withIdentifier (e : Event) (id? : Option String) :
    (e.withIdentifier id?).isStorable = e.isStorable := by
  have hkind : ∀ payload : Payload, (payload.withIdentifier id?).kind = payload.kind := by
    intro payload
    cases payload <;> rfl
  unfold Event.isStorable Event.withIdentifier
  cases e.payload with
  | none => rfl
  | some payload => simp [hkind]

/-! ## Captures -/

/-- The event at the place of the second packet is that of the first, with the value of the header
as the identifier of the call. -/
lemma eventAt?_of_shortens (h : Shortens p q) (before after : List Packet) :
    eventAt? (before ++ q :: after) before.length =
      (eventAt? (before ++ p :: after) before.length).map (·.withIdentifier (fullCallId? p)) := by
  rw [eventAt?_eq, eventAt?_eq, firstTime_replaced h.time, getElem?_replaced, getElem?_replaced]
  cases (before ++ p :: after).head? with
  | none => rfl
  | some first => exact packetEvent?_of_shortens h first.time (before.length + 1)

/-- That identifier is the one that the event had, unless the header is there with an empty value.
-/
lemma map_withIdentifier_eq_iff (h : (Message.ofUnified (carriedText p)).HasNoShortNames)
    (before after : List Packet) :
    (eventAt? (before ++ p :: after) before.length).map (·.withIdentifier (fullCallId? p)) =
        eventAt? (before ++ p :: after) before.length ↔
      (fullCallId? p = some "" → eventAt? (before ++ p :: after) before.length = none) := by
  cases he : eventAt? (before ++ p :: after) before.length with
  | none => exact iff_of_true rfl fun _ => rfl
  | some e =>
    obtain ⟨first, hevent⟩ := exists_packetEvent? he
    rw [Option.map_some, Option.some_inj]
    constructor
    · intro hsame hempty
      have hkey := key_eq_none_of_empty h hempty hevent
      rw [← hsame, hempty] at hkey
      cases hkey
    · intro hnone
      refine withIdentifier_eq_self h (fun hempty => ?_) hevent
      cases hnone hempty

/-- For every capture and every packet of it whose message has no short names: with the short names
in the place of the full ones the other events are the same, and that of the packet is what it was
but for the identifier of the call, which is the value of the header.

So the events of the capture are the same exactly if that value is not an empty text, unless the
packet becomes no event at all.  If it is one, the tap always finds the event with the full names
malformed, for want of a key, and never the one with the short names. -/
theorem events_shortNames (h : Shortens p q) (before after : List Packet) :
    (∀ i, i ≠ before.length →
      eventAt? (before ++ q :: after) i = eventAt? (before ++ p :: after) i) ∧
    eventAt? (before ++ q :: after) before.length =
      (eventAt? (before ++ p :: after) before.length).map (·.withIdentifier (fullCallId? p)) ∧
    (events (before ++ q :: after) = events (before ++ p :: after) ↔
      (fullCallId? p = some "" → eventAt? (before ++ p :: after) before.length = none)) ∧
    (fullCallId? p = some "" → ∀ e, eventAt? (before ++ p :: after) before.length = some e →
      ∀ (x : Intake) (log : List Intake.Entry), x.Follows log → x.tap.attached = true →
        (x.packet e).1 = .malformed .noKey ∧
          ∀ cause, (x.packet (e.withIdentifier (some ""))).1 ≠ .malformed cause) := by
  have hothers : ∀ i, i ≠ before.length →
      eventAt? (before ++ q :: after) i = eventAt? (before ++ p :: after) i :=
    fun _ hi => eventAt?_replaced h.time hi
  have hplace := eventAt?_of_shortens h before after
  refine ⟨hothers, hplace, ?_, ?_⟩
  · rw [events_eq_iff (by simp), ← map_withIdentifier_eq_iff h.full, ← hplace]
    refine ⟨fun hsame => hsame _, fun hsame i => ?_⟩
    by_cases hi : i = before.length
    · rw [hi, hsame]
    · exact hothers i hi
  · intro hempty e he x log hx hattached
    obtain ⟨first, hevent⟩ := exists_packetEvent? he
    have hkey := key_eq_none_of_empty h.full hempty hevent
    have hstorable := isStorable_of_packetEvent? hevent
    rw [← isStorable_withIdentifier e (some "")] at hstorable
    exact ⟨by rw [Intake.packet_of_keyless hattached hkey], hx.packet_ne_malformed rfl hstorable⟩

/-- A packet with a text. -/
def carrying (text : String) : Packet where
  time := .zero
  ends := some ⟨"10.0.0.1", "10.0.0.2"⟩
  payload := Text.Utf8.encode text.toList

/-- A request with full names, one of them twice, one without a value, and one in the body. -/
def fullNames : Packet :=
  carrying "INVITE sip:b SIP/2.0\r\nCall-ID: a\r\nFrom: <sip:x>\r\nTo:\r\nFROM : y\r\n\r\nTo: b"

/-- The same with short names. -/
def shortNames : Packet :=
  carrying "INVITE sip:b SIP/2.0\r\ni: a\r\nf: <sip:x>\r\nt:\r\nf: y\r\n\r\nTo: b"

/-- The event is the same, also behind another packet. -/
theorem events_fullNames :
    events [carrying "SIP/2.0 100 Trying", shortNames] =
      events [carrying "SIP/2.0 100 Trying", fullNames] ∧
    (events [carrying "SIP/2.0 100 Trying", fullNames]).map
        (fun e => (e.key, e.fromIdentity, e.toIdentity)) =
      [(none, none, none), (some (.text "a"), some "sip:x", none)] := by
  have hshort : Shortens fullNames shortNames :=
    ⟨rfl, rfl, by decide +kernel, by decide +kernel⟩
  have hfilled : fullCallId? fullNames ≠ some "" := by decide +kernel
  obtain ⟨-, -, hsame, -⟩ := events_shortNames hshort [carrying "SIP/2.0 100 Trying"] []
  refine ⟨hsame.mpr fun hempty => absurd hempty hfilled, ?_⟩
  decide +kernel

/-- A request with an empty identifier under the full name. -/
def emptyFullName : Packet :=
  carrying "INVITE sip:b SIP/2.0\r\nCall-ID:\r\n\r\n"

/-- The same with the short name. -/
def emptyShortName : Packet :=
  carrying "INVITE sip:b SIP/2.0\r\ni:\r\n\r\n"

/-- The event of the first has no key and is malformed.  That of the second has the empty text as
its key and is accepted. -/
theorem events_emptyIdentifier :
    Shortens emptyFullName emptyShortName ∧
    ((events [emptyFullName]).map (·.key) = [none] ∧
      (events [emptyFullName]).map (fun e => (({} : Intake).packet e).1) = [.malformed .noKey]) ∧
    (events [emptyShortName]).map (·.key) = [some (.text "")] ∧
      (events [emptyShortName]).map (fun e => (({} : Intake).packet e).1) = [.accepted] := by
  refine ⟨⟨rfl, rfl, by decide +kernel, by decide +kernel⟩, ?_⟩
  decide +kernel

end Sip

end VoipCalls
