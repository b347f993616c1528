import Inquiry.Proofs.Execution.Gate
import Inquiry.Proofs.Request.Arguments

set_option autoImplicit false

namespace Inquiry

theorem Request.validate_ofMutation_flag {σ ι : Type} (catalog : Catalog σ ι) (query : Query)
    (selector : Selector ι) (dryRun : Bool) (parameters : List Parameter) :
    (ofMutation catalog query selector dryRun).validate parameters =
      (ofMutation catalog query selector false).validate parameters := by
  rw [ofMutation_eq_of_flag]
  rfl

theorem Selector.isFailure_project {ι : Type} (selector : Selector ι) (output : Output ι) :
    (selector.project output).isFailure = false := by
  cases output <;> rfl

namespace Registry

variable {σ ι : Type}

theorem runHandler_of_ok {handler : Handler σ ι} {request : Request σ ι} {state after : σ}
    {output : Output ι} {log : List LogRecord}
    (ran : (handler request).run state = ⟨.ok output, after, log⟩) :
    (runHandler handler request).run state =
      ⟨.ok (request.selector.project output), after, log⟩ := by
  rw [runHandler_run, ran]
  rfl

theorem runHandler_of_error {handler : Handler σ ι} {request : Request σ ι} {state after : σ}
    {failure : Failure} {log : List LogRecord}
    (ran : (handler request).run state = ⟨.error failure, after, log⟩) :
    (runHandler handler request).run state = ⟨.error failure, after, log⟩ := by
  rw [runHandler_run, ran]
  rfl

variable (schema : Schema σ ι) (query : Query) (confirmed : Bool)

theorem mutationRequest_cases (mutation : Mutation (Handler σ ι)) :
    (∃ failure, ∀ dryRun,
      schema.mutationRequest mutation query ⟨confirmed, dryRun⟩ = .error failure)
    ∨ ∃ selector, schema.selector query.requestedFields = .ok selector
      ∧ ∀ dryRun, schema.mutationRequest mutation query ⟨confirmed, dryRun⟩ =
        .ok (Request.ofMutation schema.catalog query selector dryRun) := by
  unfold mutationRequest
  cases resolved : schema.selector query.requestedFields with
  | error failure => exact .inl ⟨failure, fun _ => rfl⟩
  | ok selector =>
    cases declared : mutation.metadata with
    | none => exact .inr ⟨selector, rfl, fun _ => rfl⟩
    | some metadata =>
      have same := fun dryRun => Request.validate_ofMutation_flag schema.catalog query selector
        dryRun metadata.parameters
      cases checked : (Request.ofMutation schema.catalog query selector false).validate
        metadata.parameters with
      | error failure =>
        refine .inl ⟨failure, fun dryRun => ?_⟩
        simp only [bind, Except.bind, (same dryRun).trans checked]
      | ok =>
        refine .inr ⟨selector, rfl, fun dryRun => ?_⟩
        simp only [bind, Except.bind, (same dryRun).trans checked]
        rfl

theorem runMutation_cases (state : σ) :
    (∃ failure, ∀ dryRun, ∃ log, (schema.runMutation ⟨confirmed, dryRun⟩ query).run state =
      ⟨.error failure, state, log⟩)
    ∨ ∃ mutation selector, schema.mutations.get? query.operation.text = some mutation
      ∧ schema.selector query.requestedFields = .ok selector
      ∧ ∀ dryRun, (schema.runMutation ⟨confirmed, dryRun⟩ query).run state =
        (runHandler mutation.handler
          (Request.ofMutation schema.catalog query selector dryRun)).run state := by
  cases known : schema.mutations.get? query.operation.text with
  | none => exact .inl ⟨_, fun _ => ⟨[], runMutation_of_unknown known state⟩⟩
  | some mutation =>
    by_cases opened : mutation.isDestructive = true → confirmed = true
    case neg =>
      obtain ⟨destructive, withheld⟩ := Classical.not_imp.mp opened
      exact .inl ⟨_, fun _ => runMutation_of_unconfirmed known destructive
        (by simpa using withheld) state⟩
    case pos =>
      have reached : ∀ dryRun, (schema.runMutation ⟨confirmed, dryRun⟩ query).run state =
          ((liftM (schema.mutationRequest mutation query ⟨confirmed, dryRun⟩) :
            Action σ (Request σ ι)) >>= runHandler mutation.handler).run state :=
        fun _ => runMutation_of_confirmed known opened state
      rcases schema.mutationRequest_cases query confirmed mutation with
        ⟨failure, refused⟩ | ⟨selector, resolved, made⟩
      · exact .inl ⟨failure, fun dryRun => ⟨[], (reached dryRun).trans
          (Action.run_lift_bind_of_error _ state (refused dryRun))⟩⟩
      · exact .inr ⟨mutation, selector, rfl, resolved, fun dryRun => (reached dryRun).trans
          (Action.run_lift_bind_of_ok _ state (made dryRun))⟩

end Registry

end Inquiry
