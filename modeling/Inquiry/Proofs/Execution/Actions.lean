import Inquiry.Effect

set_option autoImplicit false

namespace Inquiry

@[simp] theorem Effect.map_run {σ α β : Type} (change : α → β) (effect : Effect σ α) (state : σ) :
    (change <$> effect) state =
      ⟨change (effect state).answer, (effect state).state, (effect state).log⟩ := by
  rw [map_eq_pure_bind]
  simp

theorem exists_of_bind_eq_ok {ε α β : Type} {result : Except ε α} {next : α → Except ε β}
    {answer : β} (succeeds : result >>= next = .ok answer) :
    ∃ first, result = .ok first ∧ next first = .ok answer := by
  cases result with
  | error failure => cases succeeds
  | ok first => exact ⟨first, rfl, succeeds⟩

theorem error_of_bind_eq_error {ε α β : Type} {result : Except ε α} {next : α → Except ε β}
    {failure : ε} (failed : result >>= next = .error failure) :
    result = .error failure ∨ ∃ first, result = .ok first ∧ next first = .error failure := by
  cases result with
  | error other =>
    cases failed
    exact .inl rfl
  | ok first => exact .inr ⟨first, rfl, failed⟩

namespace Action

variable {σ α β : Type}

@[simp] theorem run_lift (result : Except Failure α) (state : σ) :
    (liftM result : Action σ α).run state = ⟨result, state, []⟩ := rfl

theorem run_bind_of_ok {action : Action σ α} {state middle : σ} {answer : α}
    {log : List LogRecord} (next : α → Action σ β)
    (ran : action.run state = ⟨.ok answer, middle, log⟩) :
    (action >>= next).run state =
      ⟨((next answer).run middle).answer, ((next answer).run middle).state,
        log ++ ((next answer).run middle).log⟩ := by
  rw [ExceptT.run_bind, Effect.bind_run, ran]

theorem run_bind_of_error {action : Action σ α} {state middle : σ} {failure : Failure}
    {log : List LogRecord} (next : α → Action σ β)
    (ran : action.run state = ⟨.error failure, middle, log⟩) :
    (action >>= next).run state = ⟨.error failure, middle, log⟩ := by
  rw [ExceptT.run_bind, Effect.bind_run, ran]
  simp

theorem run_lift_bind_of_ok {result : Except Failure α} {answer : α} (next : α → Action σ β)
    (state : σ) (passed : result = .ok answer) :
    ((liftM result : Action σ α) >>= next).run state = (next answer).run state := by
  rw [run_bind_of_ok next (run_lift result state |>.trans (by rw [passed]))]
  rfl

theorem run_lift_bind_of_error {result : Except Failure α} {failure : Failure}
    (next : α → Action σ β) (state : σ) (failed : result = .error failure) :
    ((liftM result : Action σ α) >>= next).run state = ⟨.error failure, state, []⟩ :=
  run_bind_of_error next (run_lift result state |>.trans (by rw [failed]))

end Action

end Inquiry
