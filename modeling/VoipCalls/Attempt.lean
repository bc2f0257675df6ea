/-!
# Attempts

An attempt is a step on a state that may be given up.  The state goes on beside the answer, so that
what was changed before the step was given up stays changed.  That a step which is given up changes
nothing is a matter of the order in which it asks and writes.
-/

namespace VoipCalls

/-- A step on a state that may be given up for a reason. -/
abbrev Attempt (ε σ α : Type) :=
  ExceptT ε (StateM σ) α

namespace Attempt

variable {ε σ τ α β : Type}

/-- The answer of a step, and the state that it leaves whether it was given up or not. -/
def outcome (step : Attempt ε σ α) (s : σ) : Except ε α × σ :=
  StateT.run (ExceptT.run step) s

/-- A step on a part of a state. -/
def within (part : σ → τ) (put : σ → τ → σ) (step : Attempt ε τ α) : Attempt ε σ α :=
  ExceptT.mk fun s =>
    let (answer, t) := step.outcome (part s)
    (answer, put s t)

@[simp] theorem outcome_pure (a : α) (s : σ) :
    (pure a : Attempt ε σ α).outcome s = (.ok a, s) := rfl

@[simp] theorem outcome_throw (reason : ε) (s : σ) :
    (throw reason : Attempt ε σ α).outcome s = (.error reason, s) := rfl

@[simp] theorem outcome_get (s : σ) : (get : Attempt ε σ σ).outcome s = (.ok s, s) := rfl

@[simp] theorem outcome_modify (change : σ → σ) (s : σ) :
    (modify change : Attempt ε σ PUnit).outcome s = (.ok ⟨⟩, change s) := rfl

theorem outcome_within (part : σ → τ) (put : σ → τ → σ) (step : Attempt ε τ α) (s : σ) :
    (step.within part put).outcome s =
      ((step.outcome (part s)).1, put s (step.outcome (part s)).2) := rfl

/-- One step after another: the second starts from what the first has left, unless that was given
up. -/
theorem outcome_bind (step : Attempt ε σ α) (next : α → Attempt ε σ β) (s : σ) :
    (step >>= next).outcome s =
      match step.outcome s with
      | (.ok a, t) => (next a).outcome t
      | (.error reason, t) => (.error reason, t) := by
  change (match StateT.run (ExceptT.run step) s with | (a, t) => ExceptT.bindCont next a t) = _
  unfold outcome
  rcases StateT.run (ExceptT.run step) s with ⟨reason | a, t⟩ <;> rfl

end Attempt

end VoipCalls
