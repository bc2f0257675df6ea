import VoipCalls.Proofs.Store.Publishing

/-!
# Batches

A batch is a scope around some of the events that are stored.  Scopes may be nested, and a run of
operations is well nested as long as no scope is left that was not entered (`Store.openScopes`).

Batches are isolated: while a scope is open, readers find what they found when the outermost one was
entered, unless the calls were forgotten since.  They are also transparent: once no scope is open,
readers find every record, just as if there had been no scopes at all (`Store.unbatched`).  Both are
stated in `Store.run_batches`, over all runs of a new store and whatever events are refused on the
way.

The calls do not depend on the scopes (`Store.SameCalls.run_unbatched`), and `publish` is a full
copy of them, so that the second half is a matter of the depth alone.
-/

namespace VoipCalls

namespace Store

/-! ## Runs of a store -/

/-- An operation on a store: an event is stored, the scope of a batch is entered or left, or all
calls are forgotten. -/
inductive Operation where
  | upsert (e : Event) (id? : Option Int)
  | enter
  | leave
  | clear
deriving DecidableEq

/-- The store after an operation. -/
def perform (s : Store) : Operation → Store
  | .upsert e id? => (s.upsert e id?).2
  | .enter => s.enter
  | .leave => s.leave
  | .clear => s.clear

/-- The store after some operations. -/
def run (s : Store) (ops : List Operation) : Store :=
  ops.foldl perform s

/-- What the events of a run are answered with. -/
def answers (s : Store) : List Operation → List (Except Refusal Int)
  | [] => []
  | .upsert e id? :: ops => (s.upsert e id?).1 :: answers (s.upsert e id?).2 ops
  | .enter :: ops => answers s.enter ops
  | .leave :: ops => answers s.leave ops
  | .clear :: ops => answers s.clear ops

/-- The number of open scopes after one more operation; nothing once a scope is left that was not
entered. -/
def Operation.scopesAfter (scopes? : Option ℕ) : Operation → Option ℕ
  | .upsert .. | .clear => scopes?
  | .enter => scopes?.map (· + 1)
  | .leave => scopes?.bind fun n => if n = 0 then none else some (n - 1)

/-- The number of scopes that some operations leave open; nothing if they leave one that they did
not enter. -/
def openScopes (ops : List Operation) : Option ℕ :=
  ops.foldl Operation.scopesAfter (some 0)

/-- The same operations without the scopes. -/
def unbatched (ops : List Operation) : List Operation :=
  ops.filter fun
    | .upsert .. | .clear => true
    | .enter | .leave => false

/-- Two stores look the same to all readers. -/
structure ReadsAs (s t : Store) : Prop where
  /-- Snapshots from any place are the same. -/
  snapshot : ∀ start, s.snapshotFrom start = t.snapshotFrom start
  /-- The records are walked through in the same order. -/
  iterate : s.published = t.published
  /-- The same records are found under the same numbers. -/
  get : ∀ id, s.get? id = t.get? id
  /-- There are as many records. -/
  size : s.size = t.size

variable {s t : Store} {ops : List Operation} {d : ℕ}

/-- Readers see the published records and nothing else. -/
lemma ReadsAs.of_published (h : s.published = t.published) : s.ReadsAs t where
  snapshot start := by unfold snapshotFrom; rw [h]
  iterate := h
  get id := by unfold get?; rw [h]
  size := congrArg List.length h

@[simp] lemma run_append (s : Store) (ops ops' : List Operation) :
    run s (ops ++ ops') = run (run s ops) ops' :=
  List.foldl_append

/-- The scopes that are open after a last operation. -/
lemma openScopes_concat (ops : List Operation) (op : Operation) :
    openScopes (ops ++ [op]) = op.scopesAfter (openScopes ops) :=
  List.foldl_append

/-- Only from a well-nested run does an operation lead to a well-nested run. -/
lemma exists_of_openScopes_concat {op : Operation} (h : openScopes (ops ++ [op]) = some d) :
    ∃ n, openScopes ops = some n ∧ op.scopesAfter (some n) = some d := by
  rw [openScopes_concat] at h
  cases hn : openScopes ops with
  | none => rw [hn] at h; cases op <;> cases h
  | some n => exact ⟨n, rfl, by rw [hn] at h; exact h⟩

/-- Leaving a scope is well nested exactly if one is open. -/
lemma scopesAfter_leave {n : ℕ} : Operation.leave.scopesAfter (some n) = some d ↔ n = d + 1 := by
  cases n <;> simp [Operation.scopesAfter]

/-- Every run keeps a store coherent. -/
lemma Coherent.run (h : s.Coherent) (ops : List Operation) : (run s ops).Coherent := by
  induction ops generalizing s with
  | nil => exact h
  | cons op ops ih =>
    cases op with
    | upsert e id? => exact ih (h.upsert e id?)
    | enter => exact ih h.enter
    | leave => exact ih h.leave
    | clear => exact ih (coherent_clear s)

/-! ## What storing an event leaves alone -/

/-- Writing a record neither opens nor closes a batch, and shows nothing to readers. -/
@[simp] lemma depth_written (s : Store) (id? : Option Int) (r : CallRecord) :
    (s.written id? r).depth = s.depth := by
  cases id? with
  | none => rfl
  | some id =>
    unfold written replace
    dsimp only
    split <;> rfl

@[simp] lemma published_written (s : Store) (id? : Option Int) (r : CallRecord) :
    (s.written id? r).published = s.published := by
  cases id? with
  | none => rfl
  | some id =>
    unfold written replace
    dsimp only
    split <;> rfl

@[simp] lemma depth_publish (s : Store) : s.publish.depth = s.depth := by
  unfold publish
  split <;> rfl

@[simp] lemma depth_settle (s : Store) : s.settle.depth = s.depth := by
  unfold settle
  split
  · rfl
  · exact depth_publish s

@[simp] lemma depth_leave (s : Store) : s.leave.depth = s.depth - 1 :=
  depth_settle _

/-- Inside a batch nothing is published. -/
lemma settle_eq_self (h : 0 < s.depth) : s.settle = s := by
  unfold settle inBatch
  rw [if_pos (decide_eq_true h)]

/-- Storing an event neither opens nor closes a batch. -/
@[simp] lemma depth_upsert (s : Store) (e : Event) (id? : Option Int) :
    (s.upsert e id?).2.depth = s.depth := by
  rw [upsert_eq]
  cases s.decision e id? with
  | error refusal => rfl
  | ok r => exact (depth_settle _).trans (depth_written s id? r)

/-- Storing an event inside a batch shows nothing to readers. -/
lemma published_upsert (h : 0 < s.depth) (e : Event) (id? : Option Int) :
    (s.upsert e id?).2.published = s.published := by
  rw [upsert_eq]
  cases s.decision e id? with
  | error refusal => rfl
  | ok r =>
    have hdepth : 0 < ((s.written id? r).marked r.callId).depth := by
      change 0 < (s.written id? r).depth
      rw [depth_written]
      exact h
    dsimp only
    rw [settle_eq_self hdepth]
    exact published_written s id? r

/-- Records are written the same in one more batch. -/
lemma written_enter (s : Store) (id? : Option Int) (r : CallRecord) :
    s.enter.written id? r = (s.written id? r).enter := by
  cases id? with
  | none => rfl
  | some id =>
    have hplaces : s.enter.places = s.places := rfl
    change s.enter.replace id r = (s.replace id r).enter
    unfold replace
    rw [hplaces]
    cases s.places.lookup id <;> rfl

/-- Where a batch is open, storing an event is the same in one more batch. -/
lemma upsert_enter (h : 0 < s.depth) (e : Event) (id? : Option Int) :
    s.enter.upsert e id? = ((s.upsert e id?).1, (s.upsert e id?).2.enter) := by
  have hdecision : s.enter.decision e id? = s.decision e id? := rfl
  rw [upsert_eq, upsert_eq, hdecision]
  cases s.decision e id? with
  | error refusal => rfl
  | ok r =>
    have hdepth : 0 < ((s.written id? r).marked r.callId).depth := by
      change 0 < (s.written id? r).depth
      rw [depth_written]
      exact h
    have hinner : 0 < ((s.written id? r).enter.marked r.callId).depth := Nat.succ_pos _
    dsimp only
    rw [written_enter, settle_eq_self hdepth, settle_eq_self hinner]
    rfl

/-! ## Isolation -/

/-- The depth of a store counts the open scopes. -/
lemma depth_run (s : Store) (h : openScopes ops = some d) : (run s ops).depth = s.depth + d := by
  induction ops using List.reverseRecOn generalizing d with
  | nil => cases h; rfl
  | append_singleton ops op ih =>
    obtain ⟨n, hn, hop⟩ := exists_of_openScopes_concat h
    have hdepth := ih hn
    rw [run_append]
    cases op with
    | upsert e id? =>
      cases hop
      exact (depth_upsert _ e id?).trans hdepth
    | enter =>
      cases hop
      exact congrArg (· + 1) hdepth
    | leave =>
      have hn' : n = d + 1 := scopesAfter_leave.mp hop
      change (run s ops).leave.depth = _
      rw [depth_leave, hdepth]
      omega
    | clear =>
      cases hop
      exact hdepth

/-- Inside a batch, operations that leave no scope but their own show nothing to readers, unless the
calls are forgotten. -/
lemma published_run (hs : 0 < s.depth) (h : openScopes ops = some d) (hclear : .clear ∉ ops) :
    (run s ops).published = s.published := by
  induction ops using List.reverseRecOn generalizing d with
  | nil => rfl
  | append_singleton ops op ih =>
    obtain ⟨n, hn, hop⟩ := exists_of_openScopes_concat h
    have hdepth := depth_run s hn
    have hsame := ih hn fun hin => hclear (List.mem_append_left _ hin)
    rw [run_append]
    cases op with
    | upsert e id? => exact (published_upsert (by omega) e id?).trans hsame
    | enter => exact hsame
    | leave =>
      have hn' : n = d + 1 := scopesAfter_leave.mp hop
      -- the scope that is left is one of those entered on the way, so an outer one is still open
      have hinner : 0 < ({ run s ops with depth := (run s ops).depth - 1 } : Store).depth := by
        dsimp only
        omega
      change (run s ops).leave.published = _
      rw [leave, settle_eq_self hinner]
      exact hsame
    | clear => exact absurd (List.mem_append_right _ (List.mem_singleton_self _)) hclear

/-- Where scopes are open, the outermost of them was entered at some point, and nothing has left it
since. -/
lemma exists_outermost (h : openScopes ops = some (d + 1)) :
    ∃ before body, ops = before ++ .enter :: body ∧ openScopes before = some 0 ∧
      openScopes body = some d := by
  induction ops using List.reverseRecOn generalizing d with
  | nil => cases h
  | append_singleton ops op ih =>
    obtain ⟨n, hn, hop⟩ := exists_of_openScopes_concat h
    cases n with
    | zero =>
      cases op with
      | upsert | clear => cases hop
      | enter =>
        obtain rfl : d = 0 := by simpa [Operation.scopesAfter] using hop
        exact ⟨ops, [], rfl, hn, rfl⟩
      | leave => cases hop
    | succ n =>
      obtain ⟨before, body, rfl, hbefore, hbody⟩ := ih hn
      refine ⟨before, body ++ [op], by simp, hbefore, ?_⟩
      rw [openScopes_concat, hbody]
      cases op with
      | upsert | enter | clear => cases hop; rfl
      | leave =>
        obtain rfl : n = d + 1 := Nat.succ.inj (scopesAfter_leave.mp hop)
        rfl

/-! ## Transparency -/

/-- What is decided on an event depends on the calls only. -/
lemma SameCalls.decision_eq (h : s.SameCalls t) (e : Event) (id? : Option Int) :
    s.decision e id? = t.decision e id? := by
  have hfind : s.find? = t.find? := by
    unfold find?
    rw [h.working, h.places]
  unfold decision opening revision
  rw [h.nextId, hfind]

/-- Writing a record leads to the same calls from the same calls. -/
lemma SameCalls.written (h : s.SameCalls t) (id? : Option Int) (r : CallRecord) :
    (s.written id? r).SameCalls (t.written id? r) := by
  cases id? with
  | none =>
    refine ⟨?_, ?_, congrArg (· + 1) h.nextId⟩
    · exact congrArg (· ++ [r]) h.working
    · change (_, (s.working ++ [r]).length - 1) :: s.places =
        (_, (t.working ++ [r]).length - 1) :: t.places
      rw [h.working, h.places]
  | some id =>
    change (s.replace id r).SameCalls (t.replace id r)
    unfold replace
    rw [h.places]
    cases t.places.lookup id with
    | none => exact h
    | some place => exact ⟨congrArg (·.set place r) h.working, rfl, h.nextId⟩

/-- The answer to an event and the calls after it depend on the calls only. -/
lemma SameCalls.upsert (h : s.SameCalls t) (e : Event) (id? : Option Int) :
    (s.upsert e id?).1 = (t.upsert e id?).1 ∧
      (s.upsert e id?).2.SameCalls (t.upsert e id?).2 := by
  rw [upsert_eq, upsert_eq, h.decision_eq]
  cases t.decision e id? with
  | error refusal => exact ⟨rfl, h⟩
  | ok r =>
    have hsettled : ∀ u : Store, ((u.written id? r).marked r.callId).settle.SameCalls
        (u.written id? r) := fun u => (sameCalls_settle _).trans (sameCalls_marked _ _)
    exact ⟨rfl, (hsettled s).trans ((h.written id? r).trans (hsettled t).symm)⟩

/-- Scopes have no part in the calls. -/
lemma SameCalls.run_unbatched (h : s.SameCalls t) (ops : List Operation) :
    (run s ops).SameCalls (run t (unbatched ops)) := by
  induction ops generalizing s t with
  | nil => exact h
  | cons op ops ih =>
    cases op with
    | upsert e id? => exact ih (h.upsert e id?).2
    | enter => exact ih ((sameCalls_enter s).trans h)
    | leave => exact ih ((sameCalls_leave s).trans h)
    | clear => exact ih (s := s.clear) ⟨rfl, rfl, rfl⟩

/-- Scopes have no part in the answers. -/
lemma SameCalls.answers_unbatched (h : s.SameCalls t) (ops : List Operation) :
    answers s ops = answers t (unbatched ops) := by
  induction ops generalizing s t with
  | nil => rfl
  | cons op ops ih =>
    cases op with
    | upsert e id? =>
      obtain ⟨hanswer, hcalls⟩ := h.upsert e id?
      have hrest := ih hcalls
      change _ :: _ = _ :: _
      rw [hanswer, hrest]
      rfl
    | enter => exact ih ((sameCalls_enter s).trans h)
    | leave => exact ih ((sameCalls_leave s).trans h)
    | clear => exact ih (s := s.clear) ⟨rfl, rfl, rfl⟩

/-- No scope is open after operations without scopes. -/
lemma openScopes_unbatched (ops : List Operation) : openScopes (unbatched ops) = some 0 := by
  induction ops with
  | nil => rfl
  | cons op ops ih =>
    cases op with
    | upsert | enter | leave | clear => exact ih

/-- Without an open scope, everything is published. -/
lemma published_eq_working (h : openScopes ops = some 0) :
    (run {} ops).published = (run {} ops).working :=
  ((Coherent.empty.run ops).settled (depth_run {} h)).1

/-! ## Batches are isolated and transparent -/

/-- Batches are isolated and transparent.  While scopes are open, readers find what they found when
the outermost one was entered, unless the calls were forgotten since.  When none is open, they find
the working records, which are those of the same run without scopes, and a call was created exactly
if readers find it. -/
theorem run_batches (ops : List Operation) :
    (∀ d, openScopes ops = some (d + 1) →
      ∃ before body, ops = before ++ .enter :: body ∧ openScopes before = some 0 ∧
        openScopes body = some d ∧ (.clear ∉ body → (run {} ops).ReadsAs (run {} before))) ∧
    (openScopes ops = some 0 →
      (run {} ops).published = (run {} ops).working ∧
      (run {} ops).published = (run {} (unbatched ops)).published ∧
      answers {} ops = answers {} (unbatched ops) ∧
      ∀ id, (run {} ops).knows id = ((run {} ops).get? id).isSome) := by
  refine ⟨fun d hd => ?_, fun h =>
    ⟨published_eq_working h, ?_, (SameCalls.refl {}).answers_unbatched ops, ?_⟩⟩
  · obtain ⟨before, body, rfl, hbefore, hbody⟩ := exists_outermost hd
    refine ⟨before, body, rfl, hbefore, hbody, fun hclear => .of_published ?_⟩
    rw [run_append]
    exact published_run (s := (run {} before).enter) (Nat.succ_pos _) hbody hclear
  · rw [published_eq_working h, published_eq_working (openScopes_unbatched ops)]
    exact ((SameCalls.refl {}).run_unbatched ops).working
  · exact fun id => (Coherent.empty.run ops).knows_eq (depth_run {} h) id

/-- A call is opened.  It is revised in a scope, and in a scope inside that one an event without a
frame is refused and another call is opened. -/
def nestedScopes : List Operation :=
  [.upsert { protocol := .mgcp, frame := some 1, time := some (.whole 0) } none, .enter,
    .upsert { protocol := .mgcp, frame := some 2, time := some (.whole 1) } (some 0), .enter,
    .upsert { protocol := .mgcp } none,
    .upsert { protocol := .h248, frame := some 3, time := some (.whole 1) } none]

/-- Inside both scopes readers find the one call as it was opened, and outside of them both
calls. -/
theorem run_nestedScopes :
    (openScopes nestedScopes = some 2 ∧
      ∃ before body, nestedScopes = before ++ .enter :: body ∧ openScopes before = some 0 ∧
        openScopes body = some 1 ∧ (run {} nestedScopes).ReadsAs (run {} before)) ∧
    (run {} nestedScopes).size = 1 ∧ (run {} nestedScopes).working.length = 2 ∧
    (openScopes (nestedScopes ++ [.leave, .leave]) = some 0 ∧
      (run {} (nestedScopes ++ [.leave, .leave])).published =
        (run {} (nestedScopes ++ [.leave, .leave])).working ∧
      (run {} (nestedScopes ++ [.leave, .leave])).size = 2) := by
  refine ⟨⟨rfl, ?_⟩, by decide, by decide, rfl, ?_, by decide⟩
  · obtain ⟨before, body, hops, hbefore, hbody, hreads⟩ := (run_batches nestedScopes).1 1 rfl
    refine ⟨before, body, hops, hbefore, hbody, hreads fun hin => ?_⟩
    have hclear : .clear ∈ nestedScopes := by
      rw [hops]
      exact List.mem_append_right _ (List.mem_cons_of_mem _ hin)
    exact absurd hclear (by decide)
  · exact ((run_batches (nestedScopes ++ [.leave, .leave])).2 rfl).1

end Store

end VoipCalls
