import VoipCalls.Proofs.Session.Redraw
import VoipCalls.Proofs.Sip.Events
import VoipCalls.Replay

/-!
# Replays

A replay cuts the events of a capture into batches and redraws after each of them.  Where it cuts
makes no difference to what it leaves behind, except for the order in which the table presents its
rows (`Session.replay_batchSize`).

The replays are compared with the plain feeding of all events, one by one and without any redraw.
They agree with it in what they have gathered (`Intake.GathersAs`, `Session.Agrees.feedBatch`), and
at the end all that was gathered is published and drawn.  This is so unless a batch was open before
the replay: then nothing is published or drawn at all, and a batch is nothing but its events
(`Session.feedBatch_of_inBatch`).

No event of a capture stops a replay on the way (`Sip.packet_ne_timeOverflow`).
-/

namespace VoipCalls

/-! ## The pieces of a list -/

/-- Enough pieces that are not empty are the list that they are cut off. -/
lemma flatten_go {α : Type} {size : ℕ} (hsize : 0 < size) {n : ℕ} {xs : List α}
    (hlength : xs.length ≤ n) : (chunks.go size n xs).flatten = xs := by
  induction n generalizing xs with
  | zero => exact (List.length_eq_zero_iff.mp (Nat.le_zero.mp hlength)).symm
  | succ n ih =>
    unfold chunks.go
    split
    · -- an empty piece is one of an empty list
      rename_i hempty
      rcases List.take_eq_nil_iff.mp (List.isEmpty_iff.mp hempty) with hzero | hnil
      · omega
      · exact hnil.symm
    · have hrest : (xs.drop size).length ≤ n := by
        rw [List.length_drop]
        omega
      rw [List.flatten_cons, ih hrest, List.take_append_drop]

/-- The pieces of a positive size that a list is cut into are the list. -/
lemma flatten_chunks {α : Type} {size : ℕ} (hsize : 0 < size) (xs : List α) :
    (chunks size xs).flatten = xs :=
  flatten_go hsize (Nat.le_refl _)

/-- The size that is asked for is made positive. -/
lemma toNat_max_one_pos (batchSize : Int) : 0 < (max 1 batchSize).toNat := by
  omega

example : chunks 2 [1, 2, 3, 4, 5] = [[1, 2], [3, 4], [5]] ∧ chunks 0 [1, 2] = [] := by decide

/-! ## The events of a capture -/

/-- No event of a capture has a time that is too large, so that every replay gets to its end. -/
theorem Sip.packet_ne_timeOverflow (x : Intake) {packets : List Packet} {e : Event}
    (he : e ∈ Sip.events packets) : (x.packet e).1 ≠ .timeOverflow := by
  intro htime
  obtain ⟨⟨n, hwhole, -⟩, -⟩ := (Intake.packet_overflows_iff .zero).mp htime
  obtain ⟨first, -, p, -, frame, hpacket⟩ := Sip.exists_packet_of_mem_events he
  rw [(Sip.of_packetEvent? hpacket).2] at hwhole
  cases hwhole

/-! ## Gathering the same -/

namespace Intake

/-- Two intakes have gathered the same: they differ at most in what is published or noted for it, in
the number of open batches, and in whether a redraw is due. -/
structure GathersAs (x y : Intake) : Prop where
  /-- The stores have the same calls. -/
  calls : x.store.SameCalls y.store
  /-- The sequence index is the same. -/
  sequence : x.sequence = y.sequence
  /-- The tap is the same but for the redraw. -/
  tap : x.tap = { y.tap with redraw := x.tap.redraw }

variable {x y : Intake}

lemma GathersAs.refl (x : Intake) : x.GathersAs x :=
  ⟨.refl _, rfl, rfl⟩

/-- If their stores are the same, too, and no redraw is due in the first, nothing else is left. -/
lemma GathersAs.eq_quiet (h : x.GathersAs y) (hstore : x.store = y.store)
    (hflag : x.tap.redraw = false) : x = y.quiet := by
  obtain ⟨store, sequence, tap⟩ := x
  obtain rfl : store = y.store := hstore
  obtain rfl : sequence = y.sequence := h.sequence
  have htap := h.tap
  rw [hflag] at htap
  exact congrArg (Intake.mk _ _) htap

/-- They count the same. -/
lemma GathersAs.countMalformed (h : x.GathersAs y) :
    x.countMalformed.GathersAs y.countMalformed := by
  refine ⟨h.calls, h.sequence, ?_⟩
  unfold Intake.countMalformed
  rw [h.tap]

lemma GathersAs.countIgnored (h : x.GathersAs y) :
    x.countIgnored.GathersAs y.countIgnored := by
  refine ⟨h.calls, h.sequence, ?_⟩
  unfold Intake.countIgnored
  rw [h.tap]

/-- They have the same calls for the same keys. -/
lemma GathersAs.knownCall_eq (h : x.GathersAs y) (e : Event) :
    x.knownCall e = y.knownCall e := by
  unfold knownCall
  rw [h.tap]
  rfl

/-- They bring in the same event under the same number. -/
lemma GathersAs.admittedAs (h : x.GathersAs y) (e : Event) (call : Int) :
    (x.admittedAs e call).GathersAs (y.admittedAs e call) := by
  refine ⟨?_, ?_, ?_⟩
  · change (x.store.upsert e (x.knownCall e)).2.SameCalls (y.store.upsert e (y.knownCall e)).2
    rw [h.knownCall_eq e]
    exact (h.calls.upsert e _).2
  · change x.sequence.append _ = y.sequence.append _
    rw [h.sequence]
  · change x.taken _ (x.knownCall e).isSome = _
    rw [h.knownCall_eq e, taken, h.tap]
    rfl

/-- They answer the same event with the same verdict, and have gathered the same afterwards. -/
theorem GathersAs.packet (h : x.GathersAs y) (e : Event) :
    (x.packet e).1 = (y.packet e).1 ∧ (x.packet e).2.GathersAs (y.packet e).2 := by
  have hattached : x.tap.attached = y.tap.attached := by rw [h.tap]
  have hseen : x.tap.hasSeen = y.tap.hasSeen := by rw [h.tap]; rfl
  have hopens : x.tap.opensCall = y.tap.opensCall := by rw [h.tap]; rfl
  cases hy : y.tap.attached with
  | false =>
    rw [packet_of_detached (hattached.trans hy), packet_of_detached hy]
    exact ⟨rfl, h⟩
  | true =>
    cases hkey : e.key with
    | none =>
      rw [packet_of_keyless (hattached.trans hy) hkey, packet_of_keyless hy hkey]
      exact ⟨rfl, h.countMalformed⟩
    | some k =>
      rw [packet_of_key (hattached.trans hy) hkey, packet_of_key hy hkey, hseen, hopens,
        h.knownCall_eq e, (h.calls.upsert e _).1]
      split_ifs
      · exact ⟨rfl, h⟩
      · exact ⟨rfl, h.countIgnored⟩
      · rcases (y.store.upsert e (y.knownCall e)).1 with (cause | _ | kind) | call
        · exact ⟨rfl, h.countMalformed⟩
        · exact ⟨rfl, h⟩
        · exact ⟨rfl, h⟩
        · exact ⟨rfl, h.admittedAs e call⟩

/-- No packet attaches or detaches the tap, and none opens or closes a batch. -/
lemma frame_packet (x : Intake) (e : Event) :
    (x.packet e).2.tap.attached = x.tap.attached ∧
      (x.packet e).2.store.depth = x.store.depth := by
  by_cases haccepted : (x.packet e).1 = .accepted
  · obtain ⟨-, call, -, hx⟩ := exists_of_accepted haccepted
    rw [hx]
    exact ⟨rfl, Store.depth_upsert _ _ _⟩
  · obtain ⟨malformed, ignored, hx⟩ := exists_counting haccepted
    rw [hx]
    exact ⟨rfl, rfl⟩

/-- Where a batch is open, an event is brought in the same in one more batch. -/
lemma admittedAs_enter (h : 0 < x.store.depth) (e : Event) (call : Int) :
    admittedAs { x with store := x.store.enter } e call =
      { x.admittedAs e call with store := (x.admittedAs e call).store.enter } := by
  have hknown : knownCall { x with store := x.store.enter } e = x.knownCall e := rfl
  unfold admittedAs
  rw [hknown, Store.upsert_enter h]
  rfl

/-- Where a batch is open, a packet is taken the same in one more batch. -/
lemma packet_enter (h : 0 < x.store.depth) (e : Event) :
    packet { x with store := x.store.enter } e =
      ((x.packet e).1, { (x.packet e).2 with store := (x.packet e).2.store.enter }) := by
  cases hattached : x.tap.attached with
  | false => rw [packet_of_detached hattached, packet_of_detached (by exact hattached)]
  | true =>
    cases hkey : e.key with
    | none =>
      rw [packet_of_keyless hattached hkey, packet_of_keyless (by exact hattached) hkey]
      rfl
    | some k =>
      have hknown : knownCall { x with store := x.store.enter } e = x.knownCall e := rfl
      rw [packet_of_key hattached hkey, packet_of_key (by exact hattached) hkey, hknown,
        Store.upsert_enter h]
      split_ifs
      · rfl
      · rfl
      · rcases (x.store.upsert e (x.knownCall e)).1 with (cause | _ | kind) | call
        · rfl
        · rfl
        · rfl
        · exact congrArg (Prod.mk _) (admittedAs_enter h e call)

end Intake

namespace Session

/-- Two replays agree: they have counted, reported and gathered the same. -/
structure Agrees (r p : Reply ℕ) : Prop where
  /-- They have counted the same number of accepted events. -/
  value : r.value = p.value
  /-- They have reported the same. -/
  alerts : r.alerts = p.alerts
  /-- They have gathered the same. -/
  gathered : r.session.intake.GathersAs p.session.intake

variable {s : Session} {r p : Reply ℕ}

/-! ## Feeding in batches -/

/-- Replays that agree do so after one more event. -/
lemma Agrees.feed (h : Agrees r p) (e : Event) : Agrees (feed r e) (feed p e) := by
  obtain ⟨hverdict, hgathered⟩ := h.gathered.packet e
  refine ⟨?_, ?_, hgathered⟩
  · change (if (r.session.intake.packet e).1 = .accepted then _ else _) =
      if (p.session.intake.packet e).1 = .accepted then _ else _
    rw [hverdict, h.value]
  · change r.alerts ++ alertsOf e (r.session.intake.packet e).1 =
      p.alerts ++ alertsOf e (p.session.intake.packet e).1
    rw [hverdict, h.alerts]

/-- So they do after any number of events. -/
lemma Agrees.foldl_feed (h : Agrees r p) (es : List Event) :
    Agrees (es.foldl Session.feed r) (es.foldl Session.feed p) := by
  induction es generalizing r p with
  | nil => exact h
  | cons e es ih => exact ih (h.feed e)

/-- Feeding events neither attaches nor detaches the tap, and neither opens nor closes a batch. -/
lemma frame_foldl_feed (r : Reply ℕ) (es : List Event) :
    (es.foldl feed r).session.intake.tap.attached = r.session.intake.tap.attached ∧
      (es.foldl feed r).session.intake.store.depth = r.session.intake.store.depth := by
  induction es generalizing r with
  | nil => exact ⟨rfl, rfl⟩
  | cons e es ih =>
    obtain ⟨hattached, hdepth⟩ := r.session.intake.frame_packet e
    obtain ⟨hattached', hdepth'⟩ := ih (feed r e)
    exact ⟨hattached'.trans hattached, hdepth'.trans hdepth⟩

/-- A redraw does not change what was gathered. -/
lemma Agrees.redraw (h : Agrees r p) : Agrees (redraw r) p := by
  obtain ⟨flag, hx⟩ := r.session.intake_draw
  have halerts : r.session.draw.alerts = [] := by
    unfold draw
    split <;> rfl
  refine ⟨h.value, ?_, ?_⟩
  · change r.alerts ++ r.session.draw.alerts = p.alerts
    rw [halerts, List.append_nil]
    exact h.alerts
  · change r.session.draw.session.intake.GathersAs p.session.intake
    rw [hx]
    refine ⟨h.gathered.calls, h.gathered.sequence, ?_⟩
    dsimp only
    rw [h.gathered.tap]

/-- A batch agrees with its events, one by one. -/
theorem Agrees.feedBatch (h : Agrees r p) (es : List Event) :
    Agrees (feedBatch r es) (es.foldl Session.feed p) := by
  have hentered : Agrees { r with session := r.session.enter } p :=
    ⟨h.value, h.alerts, (Store.sameCalls_enter _).trans h.gathered.calls, h.gathered.sequence,
      h.gathered.tap⟩
  obtain ⟨hvalue, halerts, hcalls, hsequence, htap⟩ := hentered.foldl_feed es
  apply Agrees.redraw
  exact ⟨hvalue, halerts, (Store.sameCalls_leave _).trans hcalls, hsequence, htap⟩

/-- Batches agree with all of their events, one by one. -/
theorem Agrees.foldl_feedBatch (h : Agrees r p) (batches : List (List Event)) :
    Agrees (batches.foldl Session.feedBatch r) (batches.flatten.foldl Session.feed p) := by
  induction batches generalizing r p with
  | nil => exact h
  | cons es batches ih =>
    rw [List.flatten_cons, List.foldl_append]
    exact ih (h.feedBatch es)

/-- The session is opened and given the events of a capture, one by one and without a redraw. -/
def plainReplay (s : Session) (packets : List Packet) : Reply ℕ :=
  (Sip.events packets).foldl Session.feed { value := 0, session := s.openCapture }

/-- Whatever the size of the batches, a replay agrees with the plain one. -/
theorem replay_agrees (s : Session) (packets : List Packet) (batchSize : Int) :
    Agrees (s.replay packets batchSize) (s.plainReplay packets) := by
  have hstart : Agrees { value := 0, session := s.openCapture }
      { value := 0, session := s.openCapture } := ⟨rfl, rfl, .refl _⟩
  have hbatches := hstart.foldl_feedBatch
    (chunks (max 1 batchSize).toNat (Sip.events packets))
  rw [flatten_chunks (toNat_max_one_pos _)] at hbatches
  exact hbatches.redraw

/-! ## Inside an open batch -/

/-- Where a batch is open, a session takes a packet the same in one more batch. -/
lemma packet_enter (h : 0 < s.intake.store.depth) (e : Event) :
    s.enter.packet e = { s.packet e with session := (s.packet e).session.enter } := by
  unfold packet enter
  dsimp only
  rw [Intake.packet_enter h]

/-- Feeding events leaves a batch open. -/
lemma inBatch_foldl_feed (h : 0 < r.session.intake.store.depth) (es : List Event) :
    0 < (es.foldl feed r).session.intake.store.depth := by
  rw [(frame_foldl_feed r es).2]
  exact h

/-- Where a batch is open, events are fed the same in one more batch. -/
lemma foldl_feed_enter (h : 0 < r.session.intake.store.depth) (es : List Event) :
    es.foldl feed { r with session := r.session.enter } =
      { es.foldl feed r with session := (es.foldl feed r).session.enter } := by
  induction es generalizing r with
  | nil => rfl
  | cons e es ih =>
    have hdepth : 0 < (feed r e).session.intake.store.depth := inBatch_foldl_feed h [e]
    have hfeed : feed { r with session := r.session.enter } e =
        { feed r e with session := (feed r e).session.enter } := by
      unfold feed
      rw [packet_enter h]
    rw [List.foldl_cons, List.foldl_cons, hfeed]
    exact ih hdepth

/-- Where a batch is open, leaving another one changes nothing. -/
lemma leave_enter (h : 0 < s.intake.store.depth) : s.enter.leave = s := by
  have hstore : s.intake.store.enter.leave = s.intake.store := by
    unfold Store.leave
    exact Store.settle_eq_self h
  unfold leave
  change { s with intake := { s.intake with store := s.intake.store.enter.leave } } = s
  rw [hstore]

/-- Where a batch is open, no redraw is due. -/
lemma redraw_of_inBatch (h : 0 < r.session.intake.store.depth) : redraw r = r := by
  have hdraw : r.session.draw = { value := false, session := r.session } := by
    have hopen : r.session.intake.store.inBatch = true := decide_eq_true h
    unfold draw Intake.draw
    rw [hopen, Bool.not_true, Bool.and_false]
    rfl
  unfold redraw
  rw [hdraw]
  dsimp only
  rw [List.append_nil, List.append_nil]

/-- Where a batch is open, a batch of events is nothing but the events. -/
theorem feedBatch_of_inBatch (h : 0 < r.session.intake.store.depth) (es : List Event) :
    feedBatch r es = es.foldl feed r := by
  have hdepth := inBatch_foldl_feed h es
  unfold feedBatch
  rw [foldl_feed_enter h]
  dsimp only
  rw [leave_enter hdepth]
  exact redraw_of_inBatch hdepth

/-- And batches of events are nothing but all of the events. -/
lemma foldl_feedBatch_of_inBatch (h : 0 < r.session.intake.store.depth)
    (batches : List (List Event)) :
    batches.foldl feedBatch r = batches.flatten.foldl feed r := by
  induction batches generalizing r with
  | nil => rfl
  | cons es batches ih =>
    rw [List.foldl_cons, List.flatten_cons, List.foldl_append, feedBatch_of_inBatch h]
    exact ih (inBatch_foldl_feed h es)

/-- Where a batch is open, a replay is the plain one, whatever the size of the batches. -/
theorem replay_of_inBatch (h : 0 < s.intake.store.depth) (packets : List Packet)
    (batchSize : Int) : s.replay packets batchSize = s.plainReplay packets := by
  have hopened : 0 < s.openCapture.intake.store.depth := h
  have hplain : 0 < (s.plainReplay packets).session.intake.store.depth :=
    inBatch_foldl_feed hopened _
  unfold replay
  dsimp only
  rw [foldl_feedBatch_of_inBatch hopened, flatten_chunks (toNat_max_one_pos _)]
  exact redraw_of_inBatch hplain

/-! ## Outside of all batches -/

/-- The operations that a batch of events consists of. -/
def batchOperations (es : List Event) : List Operation :=
  .enter :: (es.map .packet ++ [.leave, .draw])

/-- Feeding events one by one is a run of the session. -/
lemma session_foldl_feed (r : Reply ℕ) (es : List Event) :
    (es.foldl feed r).session = r.session.run (es.map .packet) := by
  induction es generalizing r with
  | nil => rfl
  | cons e es ih => exact ih (feed r e)

/-- So is feeding them in batches. -/
lemma session_foldl_feedBatch (r : Reply ℕ) (batches : List (List Event)) :
    (batches.foldl feedBatch r).session = r.session.run (batches.flatMap batchOperations) := by
  induction batches generalizing r with
  | nil => rfl
  | cons es batches ih =>
    have hbatch : (feedBatch r es).session = r.session.run (batchOperations es) := by
      change (es.foldl feed { r with session := r.session.enter }).session.leave.draw.session = _
      rw [session_foldl_feed]
      change _ = r.session.enter.run (es.map .packet ++ [.leave, .draw])
      rw [run_append]
      rfl
    rw [List.foldl_cons, ih, hbatch, List.flatMap_cons, run_append]

/-- The session after some batches of a replay. -/
def replayed (s : Session) (batches : List (List Event)) : Session :=
  (batches.foldl feedBatch { value := 0, session := s.openCapture }).session

/-- A replay is a run of the session that it opens. -/
lemma replayed_eq_run (s : Session) (batches : List (List Event)) :
    s.replayed batches = s.openCapture.run (batches.flatMap batchOperations) :=
  session_foldl_feedBatch _ _

/-- A replay in batches has gathered what is gathered of all events, one by one. -/
lemma gathersAs_replayed (s : Session) (batches : List (List Event)) :
    (s.replayed batches).intake.GathersAs
      (s.openCapture.run (batches.flatten.map .packet)).intake := by
  have hstart : Agrees { value := 0, session := s.openCapture }
      { value := 0, session := s.openCapture } := ⟨rfl, rfl, .refl _⟩
  have hgathered := (hstart.foldl_feedBatch batches).gathered
  rw [session_foldl_feed] at hgathered
  exact hgathered

/-- Outside of all batches, no redraw is due after one was asked for. -/
lemma redraw_draw (hattached : s.draw.session.intake.tap.attached = true)
    (hdepth : s.draw.session.intake.store.depth = 0) :
    s.draw.session.intake.tap.redraw = false := by
  rcases s.draw_cases with ⟨-, -, hsession⟩ | ⟨-, hsession, hnothing⟩
  · rw [hsession]
    rfl
  · rw [hsession] at hattached hdepth ⊢
    exact hnothing hattached hdepth

/-- Nothing is drawn unless a redraw is due. -/
lemma draw_of_quiet (h : s.intake.tap.redraw = false) :
    s.draw = { value := false, session := s } := by
  have hdraw : s.intake.draw = (false, s.intake) := by
    unfold Intake.draw
    rw [h, Bool.and_false, Bool.false_and]
    rfl
  unfold draw
  rw [hdraw]

/-- A redraw leaves the store alone. -/
lemma store_draw (s : Session) : s.draw.session.intake.store = s.intake.store := by
  obtain ⟨flag, hx⟩ := s.intake_draw
  rw [hx]

/-- A batch is left that was entered. -/
lemma depth_feedBatch (r : Reply ℕ) (es : List Event) :
    (feedBatch r es).session.intake.store.depth = r.session.intake.store.depth := by
  have hfed := (frame_foldl_feed { r with session := r.session.enter } es).2
  unfold feedBatch redraw
  dsimp only at hfed ⊢
  rw [store_draw]
  change Store.depth (Store.leave _) = _
  rw [Store.depth_leave, hfed]
  exact Nat.add_sub_cancel _ 1

/-- In the course of a replay as many batches are open as there were before it. -/
lemma depth_replayed (s : Session) (batches : List (List Event)) :
    (s.replayed batches).intake.store.depth = s.intake.store.depth := by
  have hfold : ∀ r : Reply ℕ, (batches.foldl feedBatch r).session.intake.store.depth =
      r.session.intake.store.depth := by
    induction batches with
    | nil => exact fun r => rfl
    | cons es batches ih => exact fun r => (ih (feedBatch r es)).trans (depth_feedBatch r es)
  exact hfold _

/-- The tap is attached in the course of a replay. -/
lemma attached_replayed (s : Session) (batches : List (List Event)) :
    (s.replayed batches).intake.tap.attached = true := by
  have hplain := frame_foldl_feed { value := 0, session := s.openCapture } batches.flatten
  rw [session_foldl_feed] at hplain
  rw [(s.gathersAs_replayed batches).tap]
  exact hplain.1

/-- Outside of all batches, no redraw is due at the end of a batch. -/
lemma redraw_replayed (h : s.intake.store.depth = 0) (batches : List (List Event)) :
    (s.replayed batches).intake.tap.redraw = false := by
  have hattached := s.attached_replayed batches
  have hdepth := (s.depth_replayed batches).trans h
  rcases List.eq_nil_or_concat' batches with rfl | ⟨bs, es, rfl⟩
  · rfl
  · unfold replayed at hattached hdepth ⊢
    rw [List.foldl_append] at hattached hdepth ⊢
    exact redraw_draw hattached hdepth

/-- Outside of all batches, the table shows what was gathered at the end of a batch. -/
lemma upToDate_replayed (h : s.intake.store.depth = 0) (batches : List (List Event)) :
    (s.replayed batches).UpToDate := by
  have hdraws := (draws_openCapture s).run (follows_openCapture s)
    (batches.flatMap batchOperations)
  rw [← replayed_eq_run] at hdraws
  exact hdraws.current (s.attached_replayed batches) (redraw_replayed h batches)

/-- The batches of a replay. -/
def batchesOf (packets : List Packet) (batchSize : Int) : List (List Event) :=
  chunks (max 1 batchSize).toNat (Sip.events packets)

/-- The batches are all events of the capture. -/
@[simp] lemma flatten_batchesOf (packets : List Packet) (batchSize : Int) :
    (batchesOf packets batchSize).flatten = Sip.events packets :=
  flatten_chunks (toNat_max_one_pos _) _

/-- Outside of all batches, nothing is left to draw after the last batch of a replay. -/
theorem session_replay (h : s.intake.store.depth = 0) (packets : List Packet)
    (batchSize : Int) :
    (s.replay packets batchSize).session = s.replayed (batchesOf packets batchSize) := by
  change (s.replayed (batchesOf packets batchSize)).draw.session = _
  rw [draw_of_quiet (redraw_replayed h _)]

/-- The store is coherent after every run of a session that has opened a capture. -/
lemma coherent_run_openCapture (s : Session) (ops : List Operation) :
    (s.openCapture.run ops).intake.store.Coherent := by
  obtain ⟨log, hlog, -⟩ := (follows_openCapture s).exists_run ops
  exact hlog.coherent

/-- Outside of all batches, a replay leaves what the plain one leaves, but for the redraw. -/
theorem intake_replay (h : s.intake.store.depth = 0) (packets : List Packet) (batchSize : Int) :
    (s.replay packets batchSize).session.intake =
      (s.plainReplay packets).session.intake.quiet := by
  have hgathered := s.gathersAs_replayed (batchesOf packets batchSize)
  have hdepth := (s.depth_replayed (batchesOf packets batchSize)).trans h
  have hdepth' : (s.plainReplay packets).session.intake.store.depth = 0 :=
    (frame_foldl_feed _ _).2.trans h
  have hplain : (s.plainReplay packets).session =
      s.openCapture.run ((Sip.events packets).map .packet) := session_foldl_feed _ _
  rw [session_replay h]
  rw [flatten_batchesOf, ← hplain] at hgathered
  have hcoherent : (s.replayed (batchesOf packets batchSize)).intake.store.Coherent := by
    rw [replayed_eq_run]
    exact s.coherent_run_openCapture _
  have hcoherent' : (s.plainReplay packets).session.intake.store.Coherent := by
    rw [hplain]
    exact s.coherent_run_openCapture _
  -- without an open batch, the working records determine what is published
  have hstore := hcoherent.eq_of_settled hcoherent' hdepth hdepth' hgathered.calls.working
  exact hgathered.eq_quiet hstore (redraw_replayed h _)

/-- Outside of all batches, the rows of the table are the published records after a replay, each of
them drawn. -/
theorem rows_replay (h : s.intake.store.depth = 0) (packets : List Packet) (batchSize : Int) :
    (s.replay packets batchSize).session.table.rows =
      Table.drawRows s.table.precision
        (s.replay packets batchSize).session.intake.store.published := by
  have hcurrent := upToDate_replayed h (batchesOf packets batchSize)
  have hprecision : (s.replayed (batchesOf packets batchSize)).table.precision =
      s.table.precision := by
    rw [replayed_eq_run]
    exact s.openCapture.precision_run _
  rw [session_replay h, hcurrent.rows, hprecision]

/-! ## The size of the batches -/

/-- The size of the batches makes no difference to a replay, whatever the session, its settings and
the packets are, and whatever whole numbers are asked for as the size: the same number of events is
accepted, the same is reported, the same intake is left, and the table has the same rows. -/
theorem replay_batchSize (s : Session) (packets : List Packet) (m n : Int) :
    (s.replay packets m).value = (s.replay packets n).value ∧
    (s.replay packets m).alerts = (s.replay packets n).alerts ∧
    (s.replay packets m).session.intake = (s.replay packets n).session.intake ∧
    (s.replay packets m).session.table.rows = (s.replay packets n).session.table.rows := by
  have hm := s.replay_agrees packets m
  have hn := s.replay_agrees packets n
  refine ⟨hm.value.trans hn.value.symm, hm.alerts.trans hn.alerts.symm, ?_⟩
  rcases Nat.eq_zero_or_pos s.intake.store.depth with hdepth | hdepth
  · have hintake : (s.replay packets m).session.intake = (s.replay packets n).session.intake := by
      rw [intake_replay hdepth, intake_replay hdepth]
    refine ⟨hintake, ?_⟩
    rw [rows_replay hdepth, rows_replay hdepth, hintake]
  · rw [replay_of_inBatch hdepth, replay_of_inBatch hdepth]
    exact ⟨rfl, rfl⟩

end Session

end VoipCalls
