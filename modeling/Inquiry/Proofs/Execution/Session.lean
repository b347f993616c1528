import Inquiry.Proofs.Execution.Gate

set_option autoImplicit false

namespace Inquiry

namespace Registry

variable {σ ι : Type}

def mutateAll (schema : Schema σ ι) (submissions : List (MutationOptions × String)) :
    Effect σ (List (Except ParseError Outcome)) :=
  submissions.mapM fun (options, source) => schema.mutate options source

def stepsOf (submission : MutationOptions × String) : List (MutationOptions × Query) :=
  match Batch.parse submission.2 with
  | .ok batch => batch.queries.map fun query => (submission.1, query)
  | .error _ => []

theorem options_of_mem_stepsOf {submission : MutationOptions × String}
    {step : MutationOptions × Query} (member : step ∈ stepsOf submission) :
    step.1 = submission.1 := by
  unfold stepsOf at member
  split at member
  next =>
    obtain ⟨query, -, rfl⟩ := List.mem_map.mp member
    rfl
  next => cases member

def stateAfter (schema : Schema σ ι) (steps : List (MutationOptions × Query)) (state : σ) : σ :=
  steps.foldl (fun state (options, query) => ((schema.runMutation options query).run state).state)
    state

section States

variable (schema : Schema σ ι)

@[simp] theorem stateAfter_nil (state : σ) : schema.stateAfter [] state = state := rfl

@[simp] theorem stateAfter_cons (options : MutationOptions) (query : Query)
    (rest : List (MutationOptions × Query)) (state : σ) :
    schema.stateAfter ((options, query) :: rest) state =
      schema.stateAfter rest ((schema.runMutation options query).run state).state := rfl

theorem stateAfter_append (first second : List (MutationOptions × Query)) (state : σ) :
    schema.stateAfter (first ++ second) state =
      schema.stateAfter second (schema.stateAfter first state) :=
  List.foldl_append

-- The run lemma of all invariants: a property that each step keeps holds at the end.
theorem stateAfter_preserves {P : σ → Prop} {steps : List (MutationOptions × Query)}
    (kept : ∀ step ∈ steps, ∀ state, P state →
      P ((schema.runMutation step.1 step.2).run state).state)
    {state : σ} (holds : P state) : P (schema.stateAfter steps state) := by
  induction steps generalizing state with
  | nil => exact holds
  | cons step rest ih =>
    obtain ⟨first, later⟩ := List.forall_mem_cons.mp kept
    exact ih later (first state holds)

theorem fillSlots_state (options : MutationOptions) (queries : List Query) (state : σ) :
    (schema.fillSlots (.mutate options) queries state).state =
      schema.stateAfter (queries.map fun query => (options, query)) state := by
  induction queries generalizing state with
  | nil => rfl
  | cons query rest ih =>
    rw [(schema.fillSlots_cons (.mutate options) query rest state).2, ih, List.map_cons,
      stateAfter_cons, (schema.fillSlot_run (.mutate options) query state).2]
    rfl

theorem mutate_state (options : MutationOptions) (source : String) (state : σ) :
    (schema.mutate options source state).state =
      schema.stateAfter (stepsOf (options, source)) state := by
  rw [stepsOf]
  cases parsed : Batch.parse source with
  | ok batch =>
    exact (schema.submit_of_ok (.mutate options) parsed state).2.trans
      (schema.fillSlots_state options batch.queries state)
  | error error =>
    exact congrArg Ran.state (schema.submit_of_error (.mutate options) parsed state)

theorem submit_of_single {source : String} {batch : Batch} {query : Query}
    (parsed : Batch.parse source = .ok batch) (only : batch.queries = [query])
    (purpose : Purpose) (state : σ) :
    (schema.submit purpose source state).answer =
        .ok (.single (.ofResult ((schema.runQuery purpose query).run state).answer))
      ∧ (schema.submit purpose source state).state =
        ((schema.runQuery purpose query).run state).state := by
  have ran := schema.submit_of_ok purpose parsed state
  rw [only] at ran
  exact ran

theorem run_of_slotAt {options : MutationOptions} {source : String} {batch : Batch}
    (parsed : Batch.parse source = .ok batch) {index : Nat} {query : Query}
    (located : batch.queries[index]? = some query) {state : σ} {slot : Slot}
    (answered : schema.slotAt options source state index = some slot) :
    let before := (schema.runBatch (.mutate options) (batch.take index) state).state
    let ran := (schema.runMutation options query).run before
    slot = .ofResult ran.answer
      ∧ (schema.runBatch (.mutate options) (batch.take (index + 1)) state).state = ran.state := by
  obtain ⟨result, reached⟩ := slotAt_of_located parsed located state
  exact ⟨Option.some.inj (answered.symm.trans result), reached⟩

theorem exists_run_of_mem_slots (purpose : Purpose) {source : String} {state : σ}
    {outcome : Outcome}
    (answered : (schema.submit purpose source state).answer = .ok outcome) {slot : Slot}
    (member : slot ∈ outcome.slots) :
    ∃ query before, slot = .ofResult ((schema.runQuery purpose query).run before).answer := by
  cases parsed : Batch.parse source with
  | error error =>
    rw [schema.submit_of_error purpose parsed state] at answered
    cases answered
  | ok batch =>
    rw [(schema.submit_of_ok purpose parsed state).1] at answered
    cases answered
    rw [Outcome.slots_ofSlots] at member
    obtain ⟨index, filled⟩ := List.mem_iff_getElem?.mp member
    rw [schema.fillSlots_getElem purpose batch.queries state index] at filled
    obtain ⟨query, -, answer⟩ := Option.map_eq_some_iff.mp filled
    exact ⟨query, _, answer.symm⟩

theorem mutateAll_cons (options : MutationOptions) (source : String)
    (rest : List (MutationOptions × String)) (state : σ) :
    (schema.mutateAll ((options, source) :: rest) state).answer =
        (schema.mutate options source state).answer ::
          (schema.mutateAll rest (schema.mutate options source state).state).answer
      ∧ (schema.mutateAll ((options, source) :: rest) state).state =
        (schema.mutateAll rest (schema.mutate options source state).state).state := by
  simp [mutateAll]

theorem mutateAll_state (submissions : List (MutationOptions × String)) (state : σ) :
    (schema.mutateAll submissions state).state =
      schema.stateAfter (submissions.flatMap stepsOf) state := by
  induction submissions generalizing state with
  | nil => rfl
  | cons submission rest ih =>
    obtain ⟨options, source⟩ := submission
    rw [(schema.mutateAll_cons options source rest state).2, ih, mutate_state,
      List.flatMap_cons, stateAfter_append]

end States

end Registry

end Inquiry
