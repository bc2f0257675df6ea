import Mathlib.Data.List.Infix
import VoipCalls.Proofs.Intake.Records
import VoipCalls.Proofs.Session.Bookkeeping
import VoipCalls.Proofs.Session.Lifecycle
import VoipCalls.Proofs.Session.Replaying
import VoipCalls.Proofs.Table.Presentation

/-!
# The presentation after a replay

The size of the batches makes no difference to the rows that a replay leaves in the table.  It makes
one to their order, for the table is sorted at the end of every batch, and calls that tie are left
as an earlier sort has placed them.

`Session.passes` are the sorts of a replay, the latest one first, and the table is presented in the
order after them (`Session.arranged_replayed`).  So calls that differ in the column in the end stand
in its order, however large the batches were.  Calls that tie in the end may have differed before,
unless the column is one of the times, of the speakers or of the protocols: there the order is the
same for all sizes (`Session.replay_presentation`).  In the other columns it is not
(`Session.callIds_crossing`).
-/

namespace VoipCalls

namespace Session

variable {s : Session} {es es' : List Event} {ps : List SortPass}

/-! ## What is gathered of some events -/

/-- The records of the calls that a session has gathered when it has opened a capture and taken some
events. -/
def gathered (s : Session) (es : List Event) : List CallRecord :=
  (s.openCapture.run (es.map .packet)).intake.store.working

/-- Only events that were taken can have been accepted. -/
lemma mem_acceptedSince {e : Event} {s : Session} {earlier : List Event}
    (he : e ∈ s.acceptedSince earlier (es.map .packet)) : e ∈ earlier ∨ e ∈ es := by
  induction es generalizing s earlier with
  | nil => exact Or.inl he
  | cons d es ih =>
    rcases ih he with hin | hin
    · change e ∈ if (s.packet d).value = .accepted then earlier ++ [d] else earlier at hin
      split at hin
      · rcases List.mem_append.mp hin with hin | hin
        · exact Or.inl hin
        · obtain rfl := List.mem_singleton.mp hin
          exact Or.inr List.mem_cons_self
      · exact Or.inl hin
    · exact Or.inr (List.mem_cons_of_mem _ hin)

/-- What is gathered follows from a log of these events. -/
lemma exists_follows_gathered (s : Session) (es : List Event) :
    ∃ log, (s.openCapture.run (es.map .packet)).Follows log ∧ ∀ a ∈ log, a.event ∈ es := by
  obtain ⟨log, hlog, hmap, -⟩ := (follows_openCapture s).exists_run (es.map .packet)
  refine ⟨log, hlog, fun a ha => ?_⟩
  have hin : a.event ∈ s.openCapture.acceptedSince [] (es.map .packet) := by
    rw [List.map_nil] at hmap
    rw [← hmap]
    exact List.mem_map_of_mem ha
  rcases mem_acceptedSince hin with hin | hin
  · exact absurd hin List.not_mem_nil
  · exact hin

/-- What is gathered of more events follows from a log that has grown. -/
lemma exists_prefix_gathered (s : Session) (h : es <+: es') :
    ∃ log log', (s.openCapture.run (es.map .packet)).Follows log ∧
      (s.openCapture.run (es'.map .packet)).Follows log' ∧ log <+: log' := by
  obtain ⟨later, rfl⟩ := h
  obtain ⟨log, hlog, -⟩ := s.exists_follows_gathered es
  obtain ⟨log', hlog', -, hgrows⟩ := hlog.exists_run (later.map .packet)
  refine ⟨log, log', hlog, ?_, hgrows (by simp)⟩
  rw [List.map_append, run_append]
  exact hlog'

lemma length_gathered_le (s : Session) (h : es <+: es') :
    (s.gathered es).length ≤ (s.gathered es').length := by
  obtain ⟨log, log', hlog, hlog', hgrows⟩ := s.exists_prefix_gathered h
  exact hlog.intake.length_le_of_prefix hlog'.intake hgrows

/-- A call that was gathered is there later, too. -/
lemma exists_gathered_later (s : Session) (h : es <+: es') {i : ℕ} {a : CallRecord}
    (ha : (s.gathered es)[i]? = some a) : ∃ b, (s.gathered es')[i]? = some b := by
  have hi := (List.getElem?_eq_some_iff.mp ha).1
  exact ⟨_, List.getElem?_eq_getElem (Nat.lt_of_lt_of_le hi (s.length_gathered_le h))⟩

lemma initialSpeaker_gathered (h : es <+: es') {i : ℕ} {a b : CallRecord}
    (ha : (s.gathered es)[i]? = some a) (hb : (s.gathered es')[i]? = some b) :
    a.initialSpeaker = b.initialSpeaker := by
  obtain ⟨log, log', hlog, hlog', hgrows⟩ := s.exists_prefix_gathered h
  exact hlog.intake.initialSpeaker_of_prefix hlog'.intake hgrows ha hb

/-- The calls are numbered by their places. -/
lemma callId_gathered {i : ℕ} {a : CallRecord} (ha : (s.gathered es)[i]? = some a) :
    a.callId = i := by
  obtain ⟨log, hlog, -⟩ := s.exists_follows_gathered es
  exact hlog.intake.sound.numbered i a ha

lemma isComparable_gathered (hes : ∀ e ∈ es, e.seconds.isNaN = false) {a : CallRecord}
    (ha : a ∈ s.gathered es) (c : Column) : a.isComparable c = true := by
  obtain ⟨log, hlog, hin⟩ := s.exists_follows_gathered es
  exact hlog.intake.isComparable_record (fun b hb => hes _ (hin b hb)) ha c

lemma protocol_gathered {p : Protocol} (hes : ∀ e ∈ es, e.protocol = p) {a : CallRecord}
    (ha : a ∈ s.gathered es) : a.protocol = p := by
  obtain ⟨log, hlog, hin⟩ := s.exists_follows_gathered es
  exact hlog.intake.protocol_record (fun b hb => hes _ (hin b hb)) ha

/-! ## The sorts of a replay -/

/-- The sort of the calls that were gathered of some events. -/
def passAt (s : Session) (es : List Event) : SortPass :=
  ⟨s.table.sortColumn, s.table.descending, s.gathered es⟩

/-- The sorts of a replay in batches, the latest one first: one at the end of each batch, and in
front of them all one of no calls. -/
def passes (s : Session) (batches : List (List Event)) : List SortPass :=
  batches.inits.reverse.map fun bs => s.passAt bs.flatten

/-- One more batch is one more sort. -/
lemma passes_concat (s : Session) (batches : List (List Event)) (es : List Event) :
    s.passes (batches ++ [es]) = s.passAt (batches ++ [es]).flatten :: s.passes batches := by
  unfold passes
  rw [List.inits_append]
  simp

/-- The latest sort of a replay is that of all calls. -/
lemma passes_eq_cons (s : Session) (batches : List (List Event)) :
    s.passes batches = s.passAt batches.flatten :: (s.passes batches).tail := by
  rcases List.eq_nil_or_concat' batches with rfl | ⟨bs, es, rfl⟩
  · rfl
  · rw [passes_concat]
    rfl

/-- Each sort of a replay is of the calls of some of the first events. -/
lemma exists_of_mem_passes {batches : List (List Event)} {p : SortPass}
    (hp : p ∈ s.passes batches) : ∃ es, es <+: batches.flatten ∧ p = s.passAt es := by
  obtain ⟨bs, hbs, rfl⟩ := List.mem_map.mp hp
  obtain ⟨later, hlater⟩ := (List.mem_inits _ _).mp (List.mem_reverse.mp hbs)
  refine ⟨bs.flatten, ⟨later.flatten, ?_⟩, rfl⟩
  rw [← List.flatten_append, hlater]

lemma compares_passAt (hes : ∀ e ∈ es, e.seconds.isNaN = false) : (s.passAt es).Compares :=
  fun _ ha => isComparable_gathered hes ha _

lemma compares_passes {batches : List (List Event)}
    (h : ∀ e ∈ batches.flatten, e.seconds.isNaN = false) : ∀ p ∈ s.passes batches, p.Compares := by
  intro p hp
  obtain ⟨es, hes, rfl⟩ := exists_of_mem_passes hp
  exact compares_passAt fun e he => h e (hes.subset he)

/-- The columns of the times, of the speakers and of the protocols: calls of SIP that tie in one of
them have always done. -/
def settledColumns : List Column :=
  [.startTime, .stopTime, .initialSpeaker, .protocol]

/-- Calls that tie in a settled column have never differed in it. -/
lemma passAt_settled (hc : s.table.sortColumn ∈ settledColumns) (h : es <+: es')
    (hnumbers : ∀ e ∈ es', e.seconds.isNaN = false) (hsip : ∀ e ∈ es', e.protocol = .sip)
    {i j : ℕ} (htie : (s.passAt es').order i j = .eq) : (s.passAt es).order i j = .eq := by
  rcases (s.passAt es).order_cases i j with hnothing | ⟨a, b, ha, hb, horder⟩
  · exact hnothing
  obtain ⟨a', ha'⟩ := s.exists_gathered_later h ha
  obtain ⟨b', hb'⟩ := s.exists_gathered_later h hb
  rw [SortPass.order_of_getElem? ha' hb'] at htie
  have htime : s.table.sortColumn = .startTime ∨ s.table.sortColumn = .stopTime →
      (s.passAt es).order i j = .eq := by
    intro hcolumn
    have hcall := CallRecord.callId_eq_of_orderIn_eq hcolumn htie
    rw [callId_gathered ha', callId_gathered hb', Int.natCast_inj] at hcall
    rw [hcall]
    exact (compares_passAt fun e he => hnumbers e (h.subset he)).order_self j
  simp only [settledColumns, List.mem_cons, List.not_mem_nil, or_false] at hc
  rcases hc with hc | hc | hc | hc
  · exact htime (Or.inl hc)
  · exact htime (Or.inr hc)
  · change CallRecord.orderIn s.table.sortColumn _ a' b' = .eq at htie
    rw [hc, ← CallRecord.orderIn_initialSpeaker (initialSpeaker_gathered h ha ha')
      (initialSpeaker_gathered h hb hb'), ← hc] at htie
    exact horder.trans htie
  · have hown : ∀ e ∈ es, e.protocol = .sip := fun e he => hsip e (h.subset he)
    have hsame := CallRecord.orderIn_protocol_of_sip
      (protocol_gathered hown (List.mem_of_getElem? ha))
      (protocol_gathered hown (List.mem_of_getElem? hb)) s.table.descending
    rw [← hc] at hsame
    exact horder.trans hsame

/-! ## The table in the course of a replay -/

/-- A redraw presents the table in the order of one sort more, whether it is due or not. -/
lemma arranged_draw {log : List Intake.Entry} (hlog : s.Follows log) (h : s.table.Arranged ps)
    (hsorting : s.table.sorting = true)
    (hlength : s.table.rows.length ≤ s.intake.store.working.length)
    (hcomparable : ∀ a ∈ s.intake.store.working, a.isComparable s.table.sortColumn = true) :
    s.draw.session.table.Arranged (s.table.pass :: ps) := by
  rcases s.draw_cases with ⟨-, hdepth, hsession⟩ | ⟨-, hsession, -⟩ <;> rw [hsession]
  · have hpublished : s.intake.quiet.store.published = s.intake.store.working :=
      (hlog.coherent.settled hdepth).1
    apply h.refresh hsorting
    · rw [hpublished]
      exact hlength
    · rw [hpublished]
      exact hcomparable
  · exact h.again

/-- A redraw sorts by the same column and direction as before. -/
lemma frame_draw (s : Session) : s.draw.session.table.sortColumn = s.table.sortColumn ∧
    s.draw.session.table.descending = s.table.descending ∧
    s.draw.session.table.sorting = s.table.sorting := by
  rcases s.draw_cases with ⟨-, -, hsession⟩ | ⟨-, hsession, -⟩ <;> rw [hsession]
  · exact ⟨Table.sortColumn_refresh _ _, Table.descending_refresh _ _, Table.sorting_refresh _ _⟩
  · exact ⟨rfl, rfl, rfl⟩

/-- Taking packets leaves the table alone. -/
lemma table_run_packets (s : Session) (es : List Event) :
    (s.run (es.map .packet)).table = s.table := by
  induction es generalizing s with
  | nil => rfl
  | cons e es ih => exact ih (s.packet e).session

/-- The session after a further batch, before the redraw. -/
def taking (s : Session) (es : List Event) : Session :=
  (s.enter.run (es.map .packet)).leave

/-- At the end of each batch a redraw is asked for. -/
lemma replayed_concat (s : Session) (batches : List (List Event)) (es : List Event) :
    s.replayed (batches ++ [es]) = ((s.replayed batches).taking es).draw.session := by
  unfold replayed
  rw [List.foldl_append]
  change (List.foldl feed _ es).session.leave.draw.session = _
  rw [session_foldl_feed]
  rfl

lemma table_taking (s : Session) (es : List Event) : (s.taking es).table = s.table :=
  s.enter.table_run_packets es

/-- A replay sorts by the column and the direction that the session has. -/
lemma frame_replayed (s : Session) (batches : List (List Event)) :
    (s.replayed batches).table.sortColumn = s.table.sortColumn ∧
      (s.replayed batches).table.descending = s.table.descending ∧
      (s.replayed batches).table.sorting = s.table.sorting := by
  induction batches using List.reverseRecOn with
  | nil => exact ⟨rfl, rfl, rfl⟩
  | append_singleton batches es ih =>
    have hdraw := ((s.replayed batches).taking es).frame_draw
    rw [table_taking] at hdraw
    rw [replayed_concat, hdraw.1, hdraw.2.1, hdraw.2.2]
    exact ih

/-- After some batches all of their events have been taken. -/
lemma working_replayed (s : Session) (batches : List (List Event)) :
    (s.replayed batches).intake.store.working = s.gathered batches.flatten :=
  (s.gathersAs_replayed batches).calls.working

/-- The session in the course of a replay follows from a log. -/
lemma exists_follows_taking (s : Session) (batches : List (List Event)) (es : List Event) :
    ∃ log, ((s.replayed batches).taking es).Follows log := by
  obtain ⟨log, hlog, -⟩ := (follows_openCapture s).exists_run
    (batches.flatMap batchOperations ++ (.enter :: (es.map .packet ++ [.leave])))
  refine ⟨log, ?_⟩
  rw [run_append, ← replayed_eq_run] at hlog
  change Follows (List.foldl perform _ (.enter :: (es.map .packet ++ [.leave]))) log at hlog
  rw [List.foldl_cons, List.foldl_append] at hlog
  exact hlog

/-- Outside of all batches, the table shows after each batch what was gathered. -/
lemma records_replayed (hdepth : s.intake.store.depth = 0) (batches : List (List Event)) :
    (s.replayed batches).table.records = s.gathered batches.flatten := by
  have hcurrent := upToDate_replayed hdepth batches
  calc (s.replayed batches).table.records
      = (s.replayed batches).intake.store.published := by
        unfold Table.records
        rw [hcurrent.rows, Table.map_record_drawRows]
    _ = (s.replayed batches).intake.store.working := hcurrent.published
    _ = s.gathered batches.flatten := s.working_replayed batches

/-- Outside of all batches, the latest sort is that of all calls. -/
lemma pass_replayed (hdepth : s.intake.store.depth = 0) (batches : List (List Event)) :
    (s.replayed batches).table.pass = s.passAt batches.flatten := by
  obtain ⟨hcolumn, hdescending, -⟩ := s.frame_replayed batches
  unfold Table.pass passAt
  rw [hcolumn, hdescending, records_replayed hdepth]

/-- Outside of all batches, the table is presented in the order after the sorts of the replay. -/
theorem arranged_replayed (hdepth : s.intake.store.depth = 0) (hsorting : s.table.sorting = true)
    {batches : List (List Event)} (hnumbers : ∀ e ∈ batches.flatten, e.seconds.isNaN = false) :
    (s.replayed batches).table.Arranged (s.passes batches).tail := by
  induction batches using List.reverseRecOn with
  | nil => exact Table.arranged_of_isEmpty rfl rfl
  | append_singleton batches es ih =>
    have hbefore : batches.flatten <+: (batches ++ [es]).flatten :=
      ⟨es, by rw [List.flatten_append, List.flatten_singleton]⟩
    have harranged := ih fun e he => hnumbers e (hbefore.subset he)
    obtain ⟨log, hlog⟩ := s.exists_follows_taking batches es
    have hworking : ((s.replayed batches).taking es).intake.store.working =
        s.gathered (batches ++ [es]).flatten := by
      rw [← working_replayed, replayed_concat, store_draw]
    have hlength : (s.replayed batches).table.rows.length ≤
        (s.gathered (batches ++ [es]).flatten).length := by
      have hrows : (s.replayed batches).table.rows.length =
          (s.replayed batches).table.records.length := (List.length_map _).symm
      rw [hrows, records_replayed hdepth]
      exact s.length_gathered_le hbefore
    have htable : ((s.replayed batches).taking es).table = (s.replayed batches).table :=
      table_taking _ es
    have hdrawn : ((s.replayed batches).taking es).draw.session.table.Arranged
        (((s.replayed batches).taking es).table.pass :: (s.passes batches).tail) := by
      apply arranged_draw hlog
      · rw [htable]
        exact harranged
      · rw [htable, (s.frame_replayed batches).2.2]
        exact hsorting
      · rw [htable, hworking]
        exact hlength
      · rw [hworking]
        exact fun a ha => isComparable_gathered hnumbers ha _
    rw [htable, pass_replayed hdepth, ← passes_eq_cons] at hdrawn
    rw [replayed_concat, passes_concat]
    exact hdrawn

/-! ## The table after a replay -/

/-- A table presents the calls of a capture as a replay does outside of all batches. -/
structure Presents (s : Session) (packets : List Packet) (batchSize : Int) (t : Table) : Prop where
  /-- The records are those of the events of the capture. -/
  records : t.records = s.gathered (Sip.events packets)
  /-- The calls are presented by their numbers. -/
  callIds : t.callIds = t.order.map fun i : ℕ => (i : Int)
  /-- The order is one of all positions. -/
  perm : t.order.Perm (List.range t.records.length)
  /-- The order is that after the sorts of the replay. -/
  sorted : t.order.Pairwise fun i j =>
    SortPass.orderAfter (s.passes (batchesOf packets batchSize)) i j = .lt

variable {packets : List Packet} {batchSize : Int} {t : Table}

/-- The sorts of a replay are of calls that can be compared. -/
lemma compares_passes_batchesOf (hfinite : ∀ p ∈ packets, p.time.isFinite = true)
    (batchSize : Int) : ∀ p ∈ s.passes (batchesOf packets batchSize), p.Compares := by
  apply compares_passes
  rw [flatten_batchesOf]
  exact Sip.isNaN_seconds hfinite

/-- Outside of all batches, a replay presents the calls in the order after its sorts. -/
theorem presents_replay (hdepth : s.intake.store.depth = 0) (hsorting : s.table.sorting = true)
    (hfinite : ∀ p ∈ packets, p.time.isFinite = true) (batchSize : Int) :
    s.Presents packets batchSize (s.replay packets batchSize).session.table := by
  have hnumbers : ∀ e ∈ (batchesOf packets batchSize).flatten, e.seconds.isNaN = false := by
    rw [flatten_batchesOf]
    exact Sip.isNaN_seconds hfinite
  have h := arranged_replayed hdepth hsorting hnumbers
  have hrecords := records_replayed hdepth (batchesOf packets batchSize)
  have hsorted := h.sorted
  have hperm := h.placed.order
  rw [pass_replayed hdepth, ← passes_eq_cons] at hsorted
  rw [← List.length_map (·.record)] at hperm
  rw [session_replay hdepth]
  refine ⟨?_, ?_, hperm, hsorted⟩
  · rw [hrecords, flatten_batchesOf]
  · apply h.callIds_eq
    rw [hrecords]
    exact fun i a ha => callId_gathered ha

/-- The order after the sorts of a replay is the only one. -/
lemma Presents.order_eq (h : s.Presents packets batchSize t)
    (hfinite : ∀ p ∈ packets, p.time.isFinite = true) {is : List ℕ}
    (hperm : is.Perm (List.range (s.gathered (Sip.events packets)).length))
    (his : is.Pairwise fun i j =>
      SortPass.orderAfter (s.passes (batchesOf packets batchSize)) i j = .lt) : t.order = is := by
  have hsame := h.perm
  rw [h.records] at hsame
  exact SortPass.eq_of_pairwise_orderAfter (compares_passes_batchesOf hfinite batchSize) h.sorted
    his (hsame.trans hperm.symm)

/-- A call that differs from another one in the column stands on its side of it, whatever the
earlier sorts were. -/
lemma Presents.sublist_callIds (h : s.Presents packets batchSize t)
    (hfinite : ∀ p ∈ packets, p.time.isFinite = true) {a b : CallRecord} (ha : a ∈ t.records)
    (hb : b ∈ t.records)
    (hab : CallRecord.orderIn s.table.sortColumn s.table.descending a b = .lt) :
    [a.callId, b.callId].Sublist t.callIds := by
  obtain ⟨i, hi⟩ := List.mem_iff_getElem?.mp ha
  obtain ⟨j, hj⟩ := List.mem_iff_getElem?.mp hb
  have hmem : ∀ {k : ℕ} {c : CallRecord}, t.records[k]? = some c → k ∈ t.order := by
    intro k c hk
    exact h.perm.symm.subset (List.mem_range.mpr (List.getElem?_eq_some_iff.mp hk).1)
  have hi' := hmem hi
  have hj' := hmem hj
  rw [h.records] at hi hj
  have hcompares := compares_passes_batchesOf (s := s) hfinite batchSize
  have hlatest : (s.passAt (Sip.events packets)).order i j = .lt := by
    rw [SortPass.order_of_getElem? hi hj]
    exact hab
  have hafter : SortPass.orderAfter (s.passes (batchesOf packets batchSize)) i j = .lt := by
    rw [passes_eq_cons, flatten_batchesOf, SortPass.orderAfter_of_decided (by rw [hlatest]; decide)]
    exact hlatest
  have hpositions : [i, j].Sublist t.order := by
    refine sublist_of_pairwise h.sorted hi' hj' ?_ ?_
    · intro heq
      rw [heq, SortPass.orderAfter_self hcompares] at hafter
      cases hafter
    · rw [SortPass.orderAfter_swap hcompares, hafter]
      decide
  rw [h.callIds, callId_gathered hi, callId_gathered hj]
  exact hpositions.map fun i : ℕ => (i : Int)

/-- In a settled column the earlier sorts make no difference. -/
lemma orderAfter_of_settledColumn (hc : s.table.sortColumn ∈ settledColumns)
    (hfinite : ∀ p ∈ packets, p.time.isFinite = true) (batchSize : Int) (i j : ℕ) :
    SortPass.orderAfter (s.passes (batchesOf packets batchSize)) i j =
      SortPass.orderAfter [s.passAt (Sip.events packets)] i j := by
  rw [passes_eq_cons, flatten_batchesOf]
  apply SortPass.orderAfter_of_settled
  intro htie q hq
  obtain ⟨es, hes, rfl⟩ := exists_of_mem_passes (List.mem_of_mem_tail hq)
  rw [flatten_batchesOf] at hes
  exact passAt_settled hc hes (Sip.isNaN_seconds hfinite) (Sip.protocol_events packets) htie

/-- In a settled column the calls are presented in the same order for all sizes. -/
lemma Presents.callIds_eq_of_settledColumn {m n : Int} {u : Table}
    (ht : s.Presents packets m t) (hu : s.Presents packets n u)
    (hc : s.table.sortColumn ∈ settledColumns)
    (hfinite : ∀ p ∈ packets, p.time.isFinite = true) : t.callIds = u.callIds := by
  have hperm := hu.perm
  have hsorted := hu.sorted
  rw [hu.records] at hperm
  have horder : t.order = u.order := by
    apply ht.order_eq hfinite hperm
    refine hsorted.imp fun {i j} hij => ?_
    rw [orderAfter_of_settledColumn hc hfinite] at hij ⊢
    exact hij
  rw [ht.callIds, hu.callIds, horder]

/-- Inside an open batch, the table stays as empty as it is opened. -/
lemma table_replay_of_inBatch (h : 0 < s.intake.store.depth) (packets : List Packet)
    (batchSize : Int) : (s.replay packets batchSize).session.table = s.table.clear := by
  rw [replay_of_inBatch h]
  unfold plainReplay
  rw [session_foldl_feed, table_run_packets]
  rfl

/-! ## The size of the batches -/

/-- What the size of the batches makes of the presentation after a replay, whatever was asked of the
session before, and whatever the packets, with their finite times, and the sizes are.

The table has the same rows for all sizes.  In a settled column the calls are presented in the same
order.  In every column two calls that differ in it stand in its order, for all sizes.  And the
presentation as a whole is the order after the sorts of the replay: calls that tie in the end stand
as they stood when they last differed, or by their numbers if they never did. -/
theorem replay_presentation {settings : Settings} {allFlows : Option Bool}
    {history : List Request} {s : Session}
    (hs : s = (Session.new settings allFlows).serveAll history) {packets : List Packet}
    (hfinite : ∀ p ∈ packets, p.time.isFinite = true) (m n : Int) :
    (s.replay packets m).session.table.rows = (s.replay packets n).session.table.rows ∧
    (s.table.sortColumn ∈ settledColumns →
      (s.replay packets m).session.table.callIds = (s.replay packets n).session.table.callIds) ∧
    (∀ a ∈ (s.replay packets m).session.table.records,
      ∀ b ∈ (s.replay packets m).session.table.records,
        CallRecord.orderIn s.table.sortColumn s.table.descending a b = .lt →
          [a.callId, b.callId].Sublist (s.replay packets m).session.table.callIds ∧
          [a.callId, b.callId].Sublist (s.replay packets n).session.table.callIds) ∧
    (s.replay packets m).session.table.callIds =
      ((s.replay packets m).session.table.order.map fun i : ℕ => (i : Int)) ∧
    (s.replay packets m).session.table.order.Perm
      (List.range (s.replay packets m).session.table.rows.length) ∧
    (s.replay packets m).session.table.order.Pairwise fun i j =>
      SortPass.orderAfter (s.passes (batchesOf packets m)) i j = .lt := by
  have hsorting : s.table.sorting = true := by
    rw [hs]
    exact ((keeps_new settings allFlows).serveAll history).sorting
  rcases Nat.eq_zero_or_pos s.intake.store.depth with hdepth | hopen
  · have hm := presents_replay hdepth hsorting hfinite m
    have hn := presents_replay hdepth hsorting hfinite n
    have hrows : (s.replay packets m).session.table.rows =
        (s.replay packets n).session.table.rows := by
      rw [rows_replay hdepth, rows_replay hdepth, intake_replay hdepth, intake_replay hdepth]
    have hperm := hm.perm
    rw [Table.records, List.length_map] at hperm
    refine ⟨hrows, fun hc => hm.callIds_eq_of_settledColumn hn hc hfinite, ?_, hm.callIds, hperm,
      hm.sorted⟩
    intro a ha b hb hab
    have hrecords := hm.records.trans hn.records.symm
    refine ⟨hm.sublist_callIds hfinite ha hb hab, ?_⟩
    rw [hrecords] at ha hb
    exact hn.sublist_callIds hfinite ha hb hab
  · have hm := table_replay_of_inBatch hopen packets m
    have hn := table_replay_of_inBatch hopen packets n
    rw [hm, hn]
    exact ⟨rfl, fun _ => rfl, fun a ha => absurd ha List.not_mem_nil, rfl, .refl _, .nil⟩

/-! ## Calls that cross -/

/-- A request that opens a call. -/
def inviteOf (call : String) : List UInt8 :=
  Text.Utf8.encode ("INVITE sip:b SIP/2.0\r\nCall-ID: " ++ call ++ "\r\n\r\n").toList

/-- An answer to it, which names caller and callee. -/
def ringingOf (call : String) : List UInt8 :=
  Text.Utf8.encode ("SIP/2.0 180 Ringing\r\nCall-ID: " ++ call ++
    "\r\nFrom: <sip:a>\r\nTo: <sip:b>\r\nCSeq: 1 INVITE\r\n\r\n").toList

/-- Three calls are opened, they are answered in another order, and a fourth one is opened. -/
def crossingMessages : List (List UInt8) :=
  [inviteOf "A", inviteOf "B", inviteOf "C", ringingOf "C", ringingOf "A", ringingOf "B",
    inviteOf "D"]

/-- The packets of these messages. -/
def crossing : List Packet :=
  crossingMessages.map fun payload =>
    { time := .zero, ends := some ⟨"10.0.0.1", "10.0.0.2"⟩, payload }

/-- All of them come at one time, which is finite. -/
lemma isFinite_crossing : ∀ p ∈ crossing, p.time.isFinite = true := by
  intro p hp
  obtain ⟨payload, -, rfl⟩ := List.mem_map.mp hp
  rfl

/-- A new session whose table is sorted. -/
def sortedBy (c : Column) (descending : Bool) : Session :=
  (Session.new {} none).serveAll [.operation (.sortBy c descending)]

/-- Sorted by the end of the calls, the capture is presented in the same order for all sizes.
Sorted by the packets, the call that was not answered stands before the first one. -/
theorem replay_presentation_crossing :
    ((sortedBy .stopTime true).replay crossing 1).session.table.callIds =
      ((sortedBy .stopTime true).replay crossing 7).session.table.callIds ∧
    [3, 0].Sublist ((sortedBy .packets false).replay crossing 1).session.table.callIds := by
  obtain ⟨-, hsettled, -⟩ := replay_presentation (s := sortedBy .stopTime true) rfl
    isFinite_crossing 1 7
  obtain ⟨-, -, hranked, -⟩ := replay_presentation (s := sortedBy .packets false) rfl
    isFinite_crossing 1 7
  refine ⟨hsettled (by decide), ?_⟩
  have hrecords := (presents_replay (s := sortedBy .packets false) rfl rfl
    isFinite_crossing 1).records
  rw [hrecords] at hranked
  have hordered : ∃ a ∈ (sortedBy .packets false).gathered (Sip.events crossing),
      ∃ b ∈ (sortedBy .packets false).gathered (Sip.events crossing),
        a.callId = 3 ∧ b.callId = 0 ∧ CallRecord.orderIn .packets false a b = .lt := by
    decide +kernel
  obtain ⟨a, ha, b, hb, hcall, hcall', hab⟩ := hordered
  rw [← hcall, ← hcall']
  exact (hranked a ha b hb hab).1

/-- The columns that are not settled. -/
def changingColumns : List Column :=
  [.fromIdentity, .toIdentity, .packets, .state, .comments]

/-- The calls that cross, as they are presented after a replay. -/
def crossed (c : Column) (descending : Bool) (batchSize : Int) : List Int :=
  ((sortedBy c descending).replay crossing batchSize).session.table.callIds

/-- The orders after the sorts of the replays. -/
lemma sorted_crossing : ∀ c ∈ changingColumns,
    ((sortedBy c false).gathered (Sip.events crossing)).length = 4 ∧
    ((sortedBy c true).gathered (Sip.events crossing)).length = 4 ∧
    ([3, 1, 0, 2].Pairwise fun i j =>
      SortPass.orderAfter ((sortedBy c false).passes (batchesOf crossing 1)) i j = .lt) ∧
    ([3, 0, 1, 2].Pairwise fun i j =>
      SortPass.orderAfter ((sortedBy c false).passes (batchesOf crossing 7)) i j = .lt) ∧
    ([2, 0, 1, 3].Pairwise fun i j =>
      SortPass.orderAfter ((sortedBy c true).passes (batchesOf crossing 1)) i j = .lt) ∧
    ([0, 1, 2, 3].Pairwise fun i j =>
      SortPass.orderAfter ((sortedBy c true).passes (batchesOf crossing 7)) i j = .lt) := by
  decide +kernel

/-- A replay of the calls that cross presents them in the order after its sorts. -/
lemma crossed_eq {c : Column} {descending : Bool} {batchSize : Int} {is : List ℕ}
    (hlength : ((sortedBy c descending).gathered (Sip.events crossing)).length = 4)
    (hperm : is.Perm (List.range 4))
    (his : is.Pairwise fun i j =>
      SortPass.orderAfter ((sortedBy c descending).passes (batchesOf crossing batchSize)) i j =
        .lt) : crossed c descending batchSize = is.map fun i : ℕ => (i : Int) := by
  have hsorting : (sortedBy c descending).table.sorting = true :=
    ((keeps_new {} none).serveAll _).sorting
  have hpresents := presents_replay (s := sortedBy c descending) rfl hsorting
    isFinite_crossing batchSize
  rw [← hlength] at hperm
  unfold crossed
  rw [hpresents.callIds, hpresents.order_eq isFinite_crossing hperm his]

/-- In every column that is not settled, and in both directions, the size of the batches makes a
difference to the order in which the calls that cross are presented. -/
theorem callIds_crossing :
    (changingColumns.map fun c => (crossed c false 1, crossed c false 7)) =
      List.replicate 5 ([3, 1, 0, 2], [3, 0, 1, 2]) ∧
    (changingColumns.map fun c => (crossed c true 1, crossed c true 7)) =
      List.replicate 5 ([2, 0, 1, 3], [0, 1, 2, 3]) := by
  have hascending : ∀ c ∈ changingColumns,
      (crossed c false 1, crossed c false 7) = ([3, 1, 0, 2], [3, 0, 1, 2]) := by
    intro c hc
    obtain ⟨hlength, -, hsmall, hlarge, -⟩ := sorted_crossing c hc
    rw [crossed_eq hlength (by decide) hsmall, crossed_eq hlength (by decide) hlarge]
    rfl
  have hdescending : ∀ c ∈ changingColumns,
      (crossed c true 1, crossed c true 7) = ([2, 0, 1, 3], [0, 1, 2, 3]) := by
    intro c hc
    obtain ⟨-, hlength, -, -, hsmall, hlarge⟩ := sorted_crossing c hc
    rw [crossed_eq hlength (by decide) hsmall, crossed_eq hlength (by decide) hlarge]
    rfl
  rw [List.map_congr_left hascending, List.map_congr_left hdescending]
  exact ⟨rfl, rfl⟩

end Session

end VoipCalls
