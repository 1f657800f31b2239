import AsmLens.Failure

/-!
# Steps that can fail

A step is a function of the state before it, on a file tree as on a session. What a sequence of two
steps does is known from the first: it goes on after a value and ends with a failure.
-/

namespace AsmLens.Step

variable {σ α β : Type} {step : ExceptT Failure (StateM σ) α}
  {next : α → ExceptT Failure (StateM σ) β} {before after changed : σ}

theorem bind_of_ok {value : α} (hstep : step before = (.ok value, after)) :
    (step >>= next) before = next value after := by
  change ExceptT.bindCont next (step before).1 (step before).2 = _
  rw [hstep]
  rfl

theorem bind_of_error {failure : Failure} (hstep : step before = (.error failure, after)) :
    (step >>= next) before = (.error failure, after) := by
  change ExceptT.bindCont next (step before).1 (step before).2 = _
  rw [hstep]
  rfl

/-- Steps that do the same from some state can go on in the same way. -/
theorem bind_congr_left {other : ExceptT Failure (StateM σ) α} (hstep : step before = other before)
    (next : α → ExceptT Failure (StateM σ) β) :
    (step >>= next) before = (other >>= next) before := by
  change ExceptT.bindCont next (step before).1 (step before).2 = _
  rw [hstep]
  rfl

/-- A sequence that comes to a value has come to one in both of its steps. -/
theorem exists_of_bind_eq_ok {value : β} (hbind : (step >>= next) before = (.ok value, after)) :
    ∃ first between, step before = (.ok first, between) ∧
      next first between = (.ok value, after) := by
  cases hstep : step before with
  | mk result between =>
      cases result with
      | error failure =>
          rw [bind_of_error hstep] at hbind
          cases hbind
      | ok first =>
          rw [bind_of_ok hstep] at hbind
          exact ⟨first, between, rfl, hbind⟩

/-- A sequence fails where its first step fails, or its second after a value of the first. -/
theorem error_or_exists_of_bind_eq_error {failure : Failure}
    (hbind : (step >>= next) before = (.error failure, after)) :
    step before = (.error failure, after) ∨
      ∃ first between, step before = (.ok first, between) ∧
        next first between = (.error failure, after) := by
  cases hstep : step before with
  | mk result between =>
      cases result with
      | error other =>
          rw [bind_of_error hstep] at hbind
          cases hbind
          exact .inl rfl
      | ok first =>
          rw [bind_of_ok hstep] at hbind
          exact .inr ⟨first, between, rfl, hbind⟩

end AsmLens.Step
