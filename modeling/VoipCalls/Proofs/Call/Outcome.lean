import VoipCalls.Proofs.Call.Growth

/-!
# What a call ends in

The events of a call propose states one after another, and `CallState.next` decides step by step
which of them hold.  `CallState.Outcome` says what a whole list of proposals leads to, without going
through the steps: until a call has ended the last proposal holds, and from then on only the
*endings* count, which are the terminal states that were proposed.  A rejection never undoes a
cancellation, but it does undo a completion.

`CallState.Outcome.next` is the step, and `CallRecord.outcome_ofEvents` proves the law of every
record.
-/

namespace VoipCalls

namespace CallState

/-- The terminal states among some proposals. -/
def endings (ps : List CallState) : List CallState :=
  ps.filter isTerminal

/-- What some proposals lead to. -/
structure Outcome (ps : List CallState) (s : CallState) : Prop where
  /-- While there are no endings, the last proposal holds. -/
  pending : endings ps = [] → s = ps.getLast?.getD .noState
  /-- If all endings are rejections, the call is rejected. -/
  rejected : endings ps ≠ [] → (∀ t ∈ endings ps, t = .rejected) → s = .rejected
  /-- A cancellation holds, whatever rejections follow. -/
  cancelled : ∀ before behind, endings ps = before ++ .cancelled :: behind →
    (∀ t ∈ behind, t = .rejected) → s = .cancelled
  /-- A completion holds while it is the last ending. -/
  completed : ∀ before, endings ps = before ++ [.completed] → s = .completed
  /-- A completion gives way to the rejections that follow. -/
  overruled : ∀ before behind, endings ps = before ++ .completed :: behind → behind ≠ [] →
    (∀ t ∈ behind, t = .rejected) → s = .rejected
  /-- The call has ended exactly if there is an ending. -/
  ended : s.isTerminal = true ↔ endings ps ≠ []

variable {ps : List CallState} {s p : CallState}

/-! ## Endings -/

/-- A terminal state that was proposed is an ending. -/
lemma mem_endings : p ∈ endings ps ↔ p ∈ ps ∧ p.isTerminal = true :=
  List.mem_filter

/-- A state that is not terminal is no ending. -/
lemma endings_concat_of_pending (hp : p.isTerminal = false) :
    endings (ps ++ [p]) = endings ps := by
  simp [endings, hp]

/-- A terminal state is the last ending. -/
lemma endings_concat_of_terminal (hp : p.isTerminal = true) :
    endings (ps ++ [p]) = endings ps ++ [p] := by
  simp [endings, hp]

/-- The last of some endings is the one that is looked at, or it stands behind that one. -/
lemma split_of_concat {ts before behind : List CallState} {t : CallState}
    (h : ts ++ [p] = before ++ t :: behind) :
    (behind = [] ∧ ts = before ∧ p = t) ∨
      ∃ rest, behind = rest ++ [p] ∧ ts = before ++ t :: rest := by
  rcases List.eq_nil_or_concat behind with rfl | ⟨rest, q, rfl⟩
  · obtain ⟨hts, hp⟩ := List.append_inj' h rfl
    exact Or.inl ⟨rfl, hts, List.head_eq_of_cons_eq hp⟩
  · rw [List.concat_eq_append, ← List.cons_append, ← List.append_assoc] at h
    obtain ⟨hts, hp⟩ := List.append_inj' h rfl
    obtain rfl := List.head_eq_of_cons_eq hp
    exact Or.inr ⟨rest, List.concat_eq_append, hts⟩

/-! ## One more proposal -/

/-- A call that has not ended takes on what is proposed. -/
lemma next_of_pending (hs : s.isTerminal = false) : s.next (some p) = p := by
  have hne : s ≠ .cancelled := by
    rintro rfl
    cases hs
  simp [next, hs, hne]

/-- A call that has ended takes no notice of a state that is not terminal. -/
lemma next_of_ended (hs : s.isTerminal = true) (hp : p.isTerminal = false) :
    s.next (some p) = s := by
  simp [next, hs, hp]

/-- A terminal state other than a rejection always holds. -/
lemma next_of_terminal (hp : p.isTerminal = true) (hne : p ≠ .rejected) :
    s.next (some p) = p := by
  simp [next, hp, hne]

/-- A rejection holds unless the call was cancelled. -/
lemma next_rejected (hs : s ≠ .cancelled) : s.next (some .rejected) = .rejected := by
  simp [next, hs, isTerminal]

namespace Outcome

/-- Before there are proposals, a call has no state. -/
lemma nil : Outcome [] .noState where
  pending _ := rfl
  rejected hne := absurd rfl hne
  cancelled before behind h := by simp [endings] at h
  completed before h := by simp [endings] at h
  overruled before behind h := by simp [endings] at h
  ended := by simp [endings, isTerminal]

/-- A state that is not terminal holds if the call has not ended, and else it changes nothing. -/
lemma next_pending (h : Outcome ps s) (hp : p.isTerminal = false) :
    Outcome (ps ++ [p]) (s.next (some p)) := by
  have hsame : endings (ps ++ [p]) = endings ps := endings_concat_of_pending hp
  cases hs : s.isTerminal with
  | false =>
    have hnone : endings ps = [] := by
      by_contra hne
      rw [h.ended.mpr hne] at hs
      cases hs
    rw [next_of_pending hs]
    exact
      { pending := fun _ => by rw [List.getLast?_concat]; rfl
        rejected := fun hne => absurd (hsame.trans hnone) hne
        cancelled := fun before behind hsplit => by simp [hsame, hnone] at hsplit
        completed := fun before hsplit => by simp [hsame, hnone] at hsplit
        overruled := fun before behind hsplit => by simp [hsame, hnone] at hsplit
        ended := by simp [hsame, hnone, hp] }
  | true =>
    rw [next_of_ended hs hp]
    exact
      { pending := fun hnone => absurd (hsame.symm.trans hnone) (h.ended.mp hs)
        rejected := by rw [hsame]; exact h.rejected
        cancelled := by rw [hsame]; exact h.cancelled
        completed := by rw [hsame]; exact h.completed
        overruled := by rw [hsame]; exact h.overruled
        ended := by rw [hsame]; exact h.ended }

/-- A cancellation or a completion holds. -/
lemma of_decided (hp : p.isTerminal = true) (hne : p ≠ .rejected) :
    Outcome (ps ++ [p]) (s.next (some p)) := by
  have hmore : endings (ps ++ [p]) = endings ps ++ [p] := endings_concat_of_terminal hp
  -- nothing stands behind the last ending, and it is no rejection itself
  have hlast : ∀ {before t behind}, endings (ps ++ [p]) = before ++ t :: behind →
      (∀ u ∈ behind, u = .rejected) → behind = [] ∧ p = t := by
    intro before t behind hsplit hbehind
    rcases split_of_concat (hmore.symm.trans hsplit) with ⟨hnil, -, hpt⟩ | ⟨rest, rfl, -⟩
    · exact ⟨hnil, hpt⟩
    · exact absurd (hbehind p (List.mem_append_right _ (List.mem_singleton_self p))) hne
  rw [next_of_terminal hp hne]
  exact
    { pending := fun hnone => by simp [hmore] at hnone
      rejected := fun _ hall => hall p (by simp [hmore])
      cancelled := fun before behind hsplit hbehind => (hlast hsplit hbehind).2
      completed := fun before hsplit =>
        (hlast hsplit fun u hu => absurd hu List.not_mem_nil).2
      overruled := fun before behind hsplit hbehind hall =>
        absurd (hlast hsplit hall).1 hbehind
      ended := by simp [hmore, hp] }

/-- A rejection holds unless the call was cancelled. -/
lemma next_rejected (h : Outcome ps s) :
    Outcome (ps ++ [.rejected]) (s.next (some .rejected)) := by
  have hmore : endings (ps ++ [.rejected]) = endings ps ++ [.rejected] :=
    endings_concat_of_terminal rfl
  -- an ending that is no rejection stands in front of the new one
  have hfront : ∀ {before t behind}, endings (ps ++ [.rejected]) = before ++ t :: behind →
      t ≠ .rejected → (∀ u ∈ behind, u = .rejected) → behind ≠ [] ∧
        ∃ rest, endings ps = before ++ t :: rest ∧ ∀ u ∈ rest, u = .rejected := by
    intro before t behind hsplit ht hbehind
    rcases split_of_concat (hmore.symm.trans hsplit) with ⟨-, -, hrt⟩ | ⟨rest, rfl, hrest⟩
    · exact absurd hrt.symm ht
    · exact ⟨by simp, rest, hrest, fun u hu => hbehind u (List.mem_append_left _ hu)⟩
  have hterminal : (s.next (some .rejected)).isTerminal = true := by
    by_cases hs : s = .cancelled
    · rw [hs]
      rfl
    · rw [CallState.next_rejected hs]
      rfl
  exact
    { pending := fun hnone => by simp [hmore] at hnone
      rejected := fun _ hall => by
        refine CallState.next_rejected fun hs => ?_
        have hne : endings ps ≠ [] := h.ended.mp (by rw [hs]; rfl)
        have hrej := h.rejected hne fun t ht =>
          hall t (by rw [hmore]; exact List.mem_append_left _ ht)
        rw [hs] at hrej
        cases hrej
      cancelled := fun before behind hsplit hbehind => by
        obtain ⟨-, rest, hrest, hall⟩ := hfront hsplit (by decide) hbehind
        rw [h.cancelled before rest hrest hall]
        rfl
      completed := fun before hsplit => by
        obtain ⟨hne, -⟩ := hfront hsplit (by decide) fun u hu => absurd hu List.not_mem_nil
        exact absurd rfl hne
      overruled := fun before behind hsplit _ hbehind => by
        obtain ⟨-, rest, hrest, hall⟩ := hfront hsplit (by decide) hbehind
        by_cases hnil : rest = []
        · rw [h.completed before (by rw [hrest, hnil])]
          rfl
        · rw [h.overruled before rest hrest hnil hall]
          rfl
      ended := by simp [hmore, hterminal] }

/-- One more proposal leads from one outcome to the next. -/
theorem next (h : Outcome ps s) (p : CallState) : Outcome (ps ++ [p]) (s.next (some p)) := by
  cases hp : p.isTerminal with
  | false => exact h.next_pending hp
  | true =>
    by_cases hrej : p = .rejected
    · subst hrej
      exact h.next_rejected
    · exact .of_decided hp hrej

end Outcome

end CallState

/-! ## The state of a record -/

namespace CallRecord

/-- An event leads to the outcome of what it proposes, and one without a proposal leaves the state
alone. -/
lemma outcome_concat {es : List Event} {s : CallState} (e : Event)
    (h : CallState.Outcome (es.filterMap (·.callState)) s) :
    CallState.Outcome ((es ++ [e]).filterMap (·.callState)) (s.next e.callState) := by
  rw [List.filterMap_append]
  cases he : e.callState with
  | none =>
    have hnone : [e].filterMap (·.callState) = [] := by simp [he]
    rw [hnone, List.append_nil]
    exact h
  | some p =>
    have hsome : [e].filterMap (·.callState) = [p] := by simp [he]
    rw [hsome]
    exact h.next p

/-- The state of a record is the outcome of what its events propose. -/
theorem outcome_ofEvents {id : Int} {es : List Event} {r : CallRecord}
    (h : ofEvents id es = some r) :
    CallState.Outcome (es.filterMap (·.callState)) r.callState := by
  induction h using ofEvents_induction with
  | first e =>
    have hopened : (openedBy id e).callState = CallState.noState.next e.callState := by
      change e.callState.getD .noState = _
      cases e.callState with
      | none => rfl
      | some p => exact (CallState.next_of_pending rfl).symm
    have hnil : CallState.Outcome (([] : List Event).filterMap (·.callState)) .noState := .nil
    rw [hopened]
    exact outcome_concat e hnil
  | next es r e _ ih => exact outcome_concat e ih

end CallRecord

end VoipCalls
