import VoipCalls.Proofs.Call.Summary
import VoipCalls.Proofs.Filter.Circuit
import VoipCalls.Proofs.Filter.Fallback

/-!
# The range of frames of a call

A call starts with the frame of its first packet and stops with the frame of the last one of the
latest time.  A capture may hold packets the times of which step back.  Such a packet goes on with
the call, and the filter by frame lists it, but it does not move the end, so that it may come behind
the range of frames that the clause of a circuit asks for.

`Session.run_frameRange` says of captures in which the frames come in order what the range is, which
packets lie behind it, when it covers the call, and that the clause of a circuit finds exactly the
packets in it again.
-/

namespace VoipCalls

/-- Where and when a packet of a call was captured. -/
structure Moment where
  frame : Int
  time : Double
deriving DecidableEq

def Event.moment (e : Event) : Moment :=
  ⟨e.frameNumber, e.seconds⟩

def SequenceEvent.moment (q : SequenceEvent) : Moment :=
  ⟨q.frame, q.time⟩

/-- The packets of a call in the index. -/
def SequenceIndex.momentsOf (x : SequenceIndex) (call : Int) : List Moment :=
  (x.items.filter fun q => q.call = call).map (·.moment)

namespace CallRecord

/-- What the range of frames of a record says about the packets of its call. -/
structure FrameRange (r : CallRecord) (ms : List Moment) (first last : Moment) : Prop where
  /-- The range starts with a packet of the call. -/
  start : r.startFrame = some first.frame ∧ first ∈ ms
  /-- It stops with a packet of the call. -/
  stop : r.stopFrame = some last.frame ∧ last ∈ ms
  /-- No packet comes before the range. -/
  first_le : ∀ m ∈ ms, first.frame ≤ m.frame
  /-- No packet is later than the one that the range stops with. -/
  le_last : ∀ m ∈ ms, m.time.le last.time = true
  /-- A packet behind the range is earlier. -/
  behind : ∀ m ∈ ms, last.frame < m.frame → m.time.lt last.time = true
  /-- The range covers the call exactly if no packet is later than the one of the last frame. -/
  covers : (∀ m ∈ ms, m.frame ≤ last.frame) ↔
    ∀ m ∈ ms, (∀ m' ∈ ms, m'.frame ≤ m.frame) → ∀ m' ∈ ms, m'.time.le m.time = true

namespace FrameRange

variable {r : CallRecord} {ms ms' : List Moment} {first last : Moment}

/-- The order in which the packets are listed does not matter. -/
lemma congr (h : r.FrameRange ms first last) (hms : ms.Perm ms') :
    r.FrameRange ms' first last where
  start := ⟨h.start.1, hms.mem_iff.mp h.start.2⟩
  stop := ⟨h.stop.1, hms.mem_iff.mp h.stop.2⟩
  first_le m hm := h.first_le m (hms.mem_iff.mpr hm)
  le_last m hm := h.le_last m (hms.mem_iff.mpr hm)
  behind m hm := h.behind m (hms.mem_iff.mpr hm)
  covers := by
    have hcovers := h.covers
    simp only [hms.mem_iff] at hcovers
    exact hcovers

end FrameRange

namespace Summarises

variable {r : CallRecord} {es : List Event}

/-- In the order of the frames, an event of a later frame than another is behind it. -/
lemma mem_behind {before behind : List Event} {last e : Event}
    (hframes : (before ++ last :: behind).Pairwise fun a b => a.frameNumber < b.frameNumber)
    (he : e ∈ before ++ last :: behind) (hlt : last.frameNumber < e.frameNumber) :
    e ∈ behind := by
  rw [List.pairwise_append] at hframes
  obtain ⟨-, -, hbefore⟩ := hframes
  rcases List.mem_append.mp he with he | he
  · have hle := hbefore e he last List.mem_cons_self
    omega
  · rcases List.mem_cons.mp he with rfl | he
    · omega
    · exact he

/-- In the order of the frames, no two events have the same frame. -/
lemma eq_of_frameNumber_eq {e e' : Event}
    (hframes : es.Pairwise fun a b => a.frameNumber < b.frameNumber) (he : e ∈ es) (he' : e' ∈ es)
    (heq : e.frameNumber = e'.frameNumber) : e = e' := by
  obtain ⟨before, behind, rfl⟩ := List.append_of_mem he'
  rw [List.pairwise_append, List.pairwise_cons] at hframes
  obtain ⟨-, ⟨hbehind, -⟩, hbefore⟩ := hframes
  rcases List.mem_append.mp he with he | he
  · have hlt := hbefore e he e' List.mem_cons_self
    omega
  · rcases List.mem_cons.mp he with rfl | he
    · rfl
    · have hlt := hbehind e he
      omega

/-- In the order of the frames, the last event has the last of them. -/
lemma exists_last (hframes : es.Pairwise fun a b => a.frameNumber < b.frameNumber)
    (hne : es ≠ []) : ∃ z ∈ es, ∀ e ∈ es, e.frameNumber ≤ z.frameNumber := by
  obtain hnil | ⟨init, z, rfl⟩ := List.eq_nil_or_concat es
  · exact absurd hnil hne
  · rw [List.concat_eq_append, List.pairwise_append] at hframes
    rw [List.concat_eq_append]
    refine ⟨z, List.mem_concat_self, fun e he => ?_⟩
    rcases List.mem_append.mp he with he | he
    · exact Int.le_of_lt (hframes.2.2 e he z (List.mem_singleton_self z))
    · exact Int.le_of_eq (congrArg Event.frameNumber (List.mem_singleton.mp he))

/-- The last event of the latest time has the last of the frames exactly if no event is later than
the one that has. -/
lemma covers_iff {last : Event} (hlast : last.IsLatest es)
    (hframes : es.Pairwise fun a b => a.frameNumber < b.frameNumber)
    (hnumbers : ∀ e ∈ es, e.seconds.isNaN = false) :
    (∀ e ∈ es, e.frameNumber ≤ last.frameNumber) ↔
      ∀ e ∈ es, (∀ e' ∈ es, e'.frameNumber ≤ e.frameNumber) →
        ∀ e' ∈ es, e'.seconds.le e.seconds = true := by
  have hmem := hlast.mem
  constructor
  · intro hcover e he hmax e' he'
    have heq : e.frameNumber = last.frameNumber :=
      Int.le_antisymm (hcover e he) (hmax last hmem)
    rw [eq_of_frameNumber_eq hframes he hmem heq]
    exact hlast.le (hnumbers last hmem) he'
  · intro hlatest e he
    obtain ⟨z, hz, hmax⟩ := exists_last hframes (List.ne_nil_of_mem he)
    have hle := hlatest z hz hmax last hmem
    -- behind the last event of the latest time there are only earlier ones
    have hnot : ¬ last.frameNumber < z.frameNumber := by
      intro hlt
      obtain ⟨before, behind, rfl, -, hbehind⟩ := hlast
      have hearlier := (Double.lt_iff.mp (hbehind z (mem_behind hframes hz hlt))).2.2
      have hrank := (Double.le_iff.mp hle).2.2
      omega
    have hez := hmax e he
    omega

/-- The record of events in the order of their frames has a range of frames. -/
lemma exists_frameRange (h : r.Summarises es) (hes : ∀ e ∈ es, e.isStorable = true)
    (hframes : es.Pairwise fun a b => a.frameNumber < b.frameNumber)
    (hnumbers : ∀ e ∈ es, e.seconds.isNaN = false) :
    ∃ first last, r.FrameRange (es.map Event.moment) first last := by
  obtain ⟨first, hfirst, -, -, -, hstart⟩ := h.start
  obtain ⟨last, hlast, -, hstop⟩ := h.stop hnumbers
  have hmem := List.mem_of_head? hfirst
  refine ⟨first.moment, last.moment, ⟨?_, List.mem_map_of_mem hmem⟩,
    ⟨?_, List.mem_map_of_mem hlast.mem⟩, ?_, ?_, ?_, ?_⟩
  · rw [hstart, ← frame_eq (hes first hmem)]
    rfl
  · rw [hstop, ← frame_eq (hes last hlast.mem)]
    rfl
  · cases es with
    | nil => cases hfirst
    | cons e es =>
      obtain rfl : e = first := Option.some.inj hfirst
      rw [List.pairwise_cons] at hframes
      rw [List.forall_mem_map]
      intro a ha
      rcases List.mem_cons.mp ha with rfl | ha
      · exact Int.le_refl _
      · exact Int.le_of_lt (hframes.1 a ha)
  · rw [List.forall_mem_map]
    exact fun e he => hlast.le (hnumbers last hlast.mem) he
  · rw [List.forall_mem_map]
    intro e he hlt
    obtain ⟨before, behind, rfl, -, hbehind⟩ := hlast
    exact hbehind e (mem_behind hframes he hlt)
  · simp only [List.forall_mem_map]
    exact covers_iff hlast hframes hnumbers

end Summarises

end CallRecord

namespace Intake

variable {x : Intake} {log : List Entry}

/-- The packets of a call in the index are those of its events. -/
lemma Follows.perm_momentsOf (h : x.Follows log) (call : Int) :
    ((eventsOf call log).map Event.moment).Perm (x.sequence.momentsOf call) := by
  have hitems : x.sequence.momentsOf call =
      ((x.sequence.items.map shown).filter fun q => q.call = call).map (·.moment) := by
    rw [List.filter_map, List.map_map]
    rfl
  have hlog : (eventsOf call log).map Event.moment =
      ((log.map Entry.sequenceEvent).filter fun q => q.call = call).map (·.moment) := by
    rw [eventsOf, List.filter_map, List.map_map, List.map_map]
    rfl
  rw [hitems, hlog]
  exact ((h.events.filter _).map _).symm

end Intake

namespace Session

open DisplayFilter

/-- The clause of a circuit finds a packet of the call again exactly if the packet is not behind the
range. -/
lemma holds_circuitFilter_moment {r : CallRecord} {ms : List Moment} {first last : Moment}
    (h : r.FrameRange ms first last) {m : Moment} (hm : m ∈ ms) (cic ni opc dpc : Int) :
    (circuitFilter r cic ni opc dpc).holds (CircuitPacket.mk cic m.frame ni opc dpc).fields =
      true ↔ m.frame ≤ last.frame ∨ opc = dpc := by
  rw [holds_circuitFilter]
  have hwithin : (CircuitPacket.mk cic m.frame ni opc dpc).Within r cic ni ↔
      m.frame ≤ last.frame := by
    constructor
    · rintro ⟨-, -, ⟨n, hn, hle⟩, -⟩
      rw [h.stop.1] at hn
      cases hn
      exact hle
    · exact fun hle => ⟨rfl, ⟨first.frame, h.start.1, h.first_le m hm⟩,
        ⟨last.frame, h.stop.1, hle⟩, rfl⟩
  rw [hwithin]
  constructor
  · rintro (⟨hle, -⟩ | ⟨hopc, -⟩)
    · exact .inl hle
    · exact .inr hopc
  · rintro (hle | heq)
    · exact .inl ⟨hle, rfl, rfl⟩
    · exact .inr ⟨heq, heq.symm⟩

/-- In a capture of which the frames come in order and the times are numbers, the range of frames of
every call starts with its first packet and stops with the last one of the latest time.  The packets
behind the range are earlier than that, so that the range covers the call exactly if no packet is
later than the last one.  While no batch is open, this is what readers find.  If the circuit of the
call is known, its clause finds a packet of the call in its direction exactly if the packet is not
behind the range, or if the two point codes are the same. -/
theorem run_frameRange (settings : Settings) (allFlows : Option Bool) {ops : List Operation}
    (hframes : ((Session.new settings allFlows).acceptedSince [] ops).Pairwise fun a b =>
      a.frameNumber < b.frameNumber)
    (hnumbers : ∀ e ∈ (Session.new settings allFlows).acceptedSince [] ops,
      e.seconds.isNaN = false)
    {call : Int} {r : CallRecord}
    (hr : ((Session.new settings allFlows).run ops).intake.store.find? call = some r) :
    ∃ first last,
      r.FrameRange (((Session.new settings allFlows).run ops).intake.sequence.momentsOf call)
        first last ∧
      (((Session.new settings allFlows).run ops).intake.store.depth = 0 →
        ((Session.new settings allFlows).run ops).intake.store.get? call = some r) ∧
      ∀ (esc : Escapes) (cic ni opc dpc : Int), r.protocol = .isup →
        r.payload = .isup ⟨some cic, some ni, some opc, some dpc⟩ →
        ∃ f, ofText? esc (fieldClause r) = some f ∧
          ∀ m ∈ ((Session.new settings allFlows).run ops).intake.sequence.momentsOf call,
            (f.holds (CircuitPacket.mk cic m.frame ni opc dpc).fields = true ↔
              m.frame ≤ last.frame ∨ opc = dpc) := by
  obtain ⟨log, hlog, hmap⟩ := exists_follows_run settings allFlows ops
  obtain ⟨i, rfl, hi⟩ := hlog.intake.sound.exists_of_find? hr
  rw [hlog.intake.records] at hi
  have hsub : (Intake.eventsOf i log).Sublist (log.map (·.event)) :=
    List.filter_sublist.map _
  rw [hmap] at hsub
  have hes : ∀ e ∈ Intake.eventsOf i log, e.isStorable = true := fun e he =>
    (hlog.intake.complete _ (Intake.mem_eventsOf.mp he)).1
  obtain ⟨first, last, hrange⟩ := (CallRecord.summarises_ofEvents hi hes).exists_frameRange hes
    (hframes.sublist hsub) fun e he => hnumbers e (hsub.subset he)
  have hrange' := hrange.congr (hlog.intake.perm_momentsOf i)
  refine ⟨first, last, hrange', fun hdepth => hlog.get?_eq_find? hdepth hr,
    fun esc cic ni opc dpc hprotocol hpayload => ?_⟩
  exact ⟨_, ofText?_fieldClause hprotocol hpayload,
    fun m hm => holds_circuitFilter_moment hrange' hm cic ni opc dpc⟩

/-- A packet of a circuit. -/
def circuitEvent (frame time : Int) : Event :=
  { protocol := .isup
    frame := some frame
    time := some (.whole time)
    key := some (.whole 12)
    payload := some (.isup ⟨some 12, some 2, some 100, some 200⟩) }

/-- A call with three packets, of which the second is earlier than the first. -/
def steppingBack : List Operation :=
  [.openCapture, .packet (circuitEvent 1 5), .packet (circuitEvent 2 3), .packet (circuitEvent 3 7)]

/-- The range covers the call, because the last packet is the latest, and the clause of the call
finds all three packets. -/
theorem run_steppingBack :
    ∃ r f, ((Session.new {} none).run steppingBack).intake.store.get? 0 = some r ∧
      r.startFrame = some 1 ∧ r.stopFrame = some 3 ∧ ofText? .verbatim (fieldClause r) = some f ∧
      ∀ m ∈ ((Session.new {} none).run steppingBack).intake.sequence.momentsOf 0,
        f.holds (CircuitPacket.mk 12 m.frame 2 100 200).fields = true := by
  obtain ⟨r, hr⟩ : ∃ r, ((Session.new {} none).run steppingBack).intake.store.find? 0 = some r :=
    Option.isSome_iff_exists.mp (by decide)
  have hknown : (((Session.new {} none).run steppingBack).intake.store.find? 0).map
      (fun r => (r.protocol, r.payload, r.startFrame, r.stopFrame)) =
        some (.isup, .isup ⟨some 12, some 2, some 100, some 200⟩, some 1, some 3) := by decide
  rw [hr] at hknown
  obtain ⟨hprotocol, hpayload, hstart, hstop⟩ : r.protocol = .isup ∧
      r.payload = .isup ⟨some 12, some 2, some 100, some 200⟩ ∧ r.startFrame = some 1 ∧
      r.stopFrame = some 3 := by simpa using hknown
  obtain ⟨first, last, hrange, hread, hclause⟩ :=
    run_frameRange {} none (by decide) (by decide) hr
  obtain ⟨f, hf, hholds⟩ := hclause .verbatim 12 2 100 200 hprotocol hpayload
  have hlast : last.frame = 3 := by
    have hframe := hrange.stop.1
    rw [hstop] at hframe
    exact (Option.some.inj hframe).symm
  refine ⟨r, f, hread (by decide), hstart, hstop, hf, fun m hm => ?_⟩
  have hle : ∀ m ∈ ((Session.new {} none).run steppingBack).intake.sequence.momentsOf 0,
      m.frame ≤ 3 := by decide
  rw [hholds m hm, hlast]
  exact .inl (hle m hm)

/-- Without the third packet the second one lies behind the range, and the clause does not find
it. -/
theorem run_endingEarly :
    ((Session.new {} none).acceptedSince [] (steppingBack.take 3)).map (·.frame) =
      [some 1, some 2] ∧
    frameFilter [0] ((Session.new {} none).run (steppingBack.take 3)).intake.sequence
        (some ((Session.new {} none).run (steppingBack.take 3)).intake.store) =
      "frame.number == 1 or frame.number == 2" ∧
    ∃ r f, ((Session.new {} none).run (steppingBack.take 3)).intake.store.get? 0 = some r ∧
      r.stopFrame = some 1 ∧ ofText? .verbatim (fieldClause r) = some f ∧
      ¬ f.holds (CircuitPacket.mk 12 2 2 100 200).fields = true := by
  obtain ⟨r, hr⟩ : ∃ r, ((Session.new {} none).run (steppingBack.take 3)).intake.store.get? 0 =
      some r := Option.isSome_iff_exists.mp (by decide)
  have hknown : (((Session.new {} none).run (steppingBack.take 3)).intake.store.get? 0).map
      (fun r => (r.protocol, r.payload, r.stopFrame)) =
        some (.isup, .isup ⟨some 12, some 2, some 100, some 200⟩, some 1) := by decide
  rw [hr] at hknown
  obtain ⟨hprotocol, hpayload, hstop⟩ : r.protocol = .isup ∧
      r.payload = .isup ⟨some 12, some 2, some 100, some 200⟩ ∧ r.stopFrame = some 1 := by
    simpa using hknown
  refine ⟨by decide, by decide, r, _, hr, hstop, ofText?_fieldClause hprotocol hpayload, ?_⟩
  rw [holds_circuitFilter]
  rintro (⟨⟨-, -, ⟨n, hn, hle⟩, -⟩, -⟩ | ⟨hopc, -⟩)
  · rw [hstop] at hn
    cases hn
    exact absurd hle (by decide)
  · exact absurd hopc (by decide)

end Session

end VoipCalls
