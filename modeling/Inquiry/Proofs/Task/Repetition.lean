import Inquiry.Proofs.Task.ReadBack

set_option autoImplicit false

namespace Inquiry

namespace Task

theorem getD_getD_self {α : Type} (value? : Option α) (otherwise : α) :
    value?.getD (value?.getD otherwise) = value?.getD otherwise := by
  cases value? <;> rfl

theorem change_change (task : Task) (changes : Changes) :
    (task.change changes).change changes = task.change changes := by
  simp only [change, getD_getD_self]

end Task

namespace TaskStore

variable {store : TaskStore} {task : Task}

theorem change_of_split {first rest : List Task} (whole : store.tasks = first ++ task :: rest)
    (earlier : ∀ other ∈ first, other.id ≠ task.id) (changes : Task.Changes) :
    (store.change task.id changes).tasks = first ++ task.change changes :: rest := by
  rw [change, whole, changeFirst_append changes earlier]

theorem find?_change (found : store.find? task.id = some task) (changes : Task.Changes) :
    (store.change task.id changes).find? task.id = some (task.change changes) := by
  obtain ⟨first, rest, whole, earlier⟩ := split_of_find? found
  exact find?_of_split (change_of_split whole earlier changes) earlier

theorem change_change (found : store.find? task.id = some task) (changes : Task.Changes) :
    (store.change task.id changes).change task.id changes = store.change task.id changes := by
  obtain ⟨first, rest, whole, earlier⟩ := split_of_find? found
  have once := change_of_split whole earlier changes
  have twice := change_of_split once earlier changes
  rw [Task.change_change, ← once] at twice
  exact congrArg (TaskStore.mk · store.nextId) twice

-- Without distinct ids the next task with the same id would take the place of the one deleted.
theorem find?_erase (distinct : store.ids.Nodup) (found : store.find? task.id = some task) :
    (store.erase task.id).find? task.id = none := by
  obtain ⟨first, rest, whole, earlier⟩ := split_of_find? found
  have later : ∀ other ∈ rest, other.id ≠ task.id := by
    rw [ids, whole, List.map_append, List.nodup_append, List.map_cons, List.nodup_cons] at distinct
    intro other member same
    exact distinct.2.1.1 (same ▸ List.mem_map_of_mem member)
  rw [find?, erase, whole, eraseP_append_of_ne earlier, List.find?_eq_none]
  intro other member
  rcases List.mem_append.mp member with inFirst | inRest
  · simpa using earlier other inFirst
  · simpa using later other inRest

end TaskStore

namespace Task

section Planned

variable {request : TaskRequest} {store : TaskStore} {plan : Plan}

theorem planUpdate_again (planned : planUpdate request store = .ok plan) :
    ∃ again, planUpdate request (plan.apply store) = .ok again
      ∧ again.apply (plan.apply store) = plan.apply store
      ∧ again.output (plan.apply store) = plan.output store := by
  obtain ⟨id, given, planned⟩ := exists_of_bind_eq_ok planned
  obtain ⟨changes, read, planned⟩ := exists_of_bind_eq_ok planned
  obtain ⟨task, located, made⟩ := exists_of_bind_eq_ok planned
  cases made
  have found := TaskStore.find?_of_taskAt located
  obtain rfl := TaskStore.id_of_find? found
  have relocated : (store.change task.id changes).taskAt task.id = .ok (task.change changes) := by
    rw [TaskStore.taskAt, TaskStore.find?_change found changes]
  refine ⟨.update (task.change changes) changes, ?_, TaskStore.change_change found changes, ?_⟩
  · simp only [planUpdate, given, read, Plan.apply, relocated, bind, Except.bind]
    rfl
  · exact congrArg Output.item (task.change_change changes)

theorem planDelete_again (distinct : store.ids.Nodup)
    (planned : planDelete request store = .ok plan) :
    ∃ failure, planDelete request (plan.apply store) = .error failure := by
  obtain ⟨id, given, planned⟩ := exists_of_bind_eq_ok planned
  obtain ⟨task, located, made⟩ := exists_of_bind_eq_ok planned
  cases made
  have found := TaskStore.find?_of_taskAt located
  obtain rfl := TaskStore.id_of_find? found
  have missing : (store.erase task.id).taskAt task.id = .error (.taskNotFound task.id) := by
    rw [TaskStore.taskAt, TaskStore.find?_erase distinct found]
  refine ⟨.taskNotFound task.id, ?_⟩
  simp only [planDelete, given, Plan.apply, missing, bind, Except.bind]

end Planned

end Task

namespace Registry

theorem runMutation_uniform {σ ι : Type} {schema : Schema σ ι} (coherent : schema.Coherent)
    (options : MutationOptions) (query : Query) :
    (∃ failure, ∀ state, ∃ log, (schema.runMutation options query).run state =
      ⟨.error failure, state, log⟩)
    ∨ ∃ mutation selector, schema.mutations.get? query.operation.text = some mutation
      ∧ ∀ state, (schema.runMutation options query).run state =
        (runHandler mutation.handler
          (Request.ofMutation schema.catalog query selector options.dryRun)).run state := by
  rcases schema.admits_or_refuses options query with ⟨mutation, admits⟩ | ⟨code, failure, refuses⟩
  · obtain ⟨selector, resolved⟩ := selector_of_known coherent admits.fields
    exact .inr ⟨mutation, selector, admits.known, admits.run resolved⟩
  · exact .inl ⟨failure, refuses.run coherent⟩

def FlagsIdempotent {σ ι : Type} (schema : Schema σ ι) (name : String) : Prop :=
  ∃ mutation metadata, schema.mutations.get? name = some mutation
    ∧ mutation.metadata = some metadata ∧ metadata.idempotent = true

end Registry

namespace Task

section Handlers

variable (request : TaskRequest) {store : TaskStore}

theorem runHandler_state {handler : TaskHandler} {planner : Planner}
    (carries : Carries handler planner) (store : TaskStore) :
    ((Registry.runHandler handler request).run store).state = store
      ∨ ∃ plan, planner request store = .ok plan ∧ request.dryRun = false := by
  cases planned : planner request store with
  | error failure =>
    left
    rw [runHandler_of_unplanned carries planned]
  | ok plan =>
    cases flag : request.dryRun with
    | false => exact .inr ⟨plan, rfl, rfl⟩
    | true =>
      left
      rw [runHandler_of_previewed carries planned flag]

theorem updateTask_twice (store : TaskStore) :
    let once := (Registry.runHandler updateTask request).run store
    let twice := (Registry.runHandler updateTask request).run once.state
    twice.answer = once.answer ∧ twice.state = once.state := by
  intro once twice
  rcases runHandler_state request updateTask_carries store with
    kept | ⟨plan, planned, real⟩
  · have same : once.state = store := kept
    simp only [twice, same]
    exact ⟨rfl, same⟩
  · obtain ⟨again, replanned, applied, output⟩ := planUpdate_again planned
    have ran : once = _ := runHandler_of_planned updateTask_carries planned real
    simp only [twice, ran, runHandler_of_planned updateTask_carries replanned real, applied, output]
    exact ⟨trivial, trivial⟩

theorem deleteTask_twice (distinct : store.ids.Nodup) :
    let once := (Registry.runHandler deleteTask request).run store
    ((Registry.runHandler deleteTask request).run once.state).state = once.state := by
  intro once
  rcases runHandler_state request deleteTask_carries store with
    kept | ⟨plan, planned, real⟩
  · have same : once.state = store := kept
    rw [same]
    exact same
  · obtain ⟨failure, missing⟩ := planDelete_again distinct planned
    have ran : once = _ := runHandler_of_planned deleteTask_carries planned real
    rw [ran, runHandler_of_unplanned deleteTask_carries missing]

end Handlers

theorem runMutation_twice (options : MutationOptions) {query : Query} {store : TaskStore}
    (named : query.operation.text = "update" ∨ query.operation.text = "delete")
    (distinct : store.ids.Nodup) :
    let once := (schema.runMutation options query).run store
    let twice := (schema.runMutation options query).run once.state
    twice.state = once.state ∧ (query.operation.text = "update" → twice.answer = once.answer) := by
  intro once twice
  rcases Registry.runMutation_uniform schema_coherent options query with
    ⟨failure, refused⟩ | ⟨mutation, selector, known, reached⟩
  · obtain ⟨log, stopped⟩ := refused store
    obtain ⟨againLog, stoppedAgain⟩ := refused once.state
    have ran : once = _ := stopped
    have reran : twice = _ := stoppedAgain
    rw [reran, ran]
    exact ⟨rfl, fun _ => rfl⟩
  · have ran : once = _ := reached store
    have reran : twice = _ := reached once.state
    rcases named with name | name
    · have updates : mutation.handler = updateTask := by
        rw [name] at known
        cases known
        rfl
      rw [updates] at ran reran
      obtain ⟨answer, state⟩ := updateTask_twice
        (Request.ofMutation schema.catalog query selector options.dryRun) store
      rw [reran, ran]
      exact ⟨state, fun _ => answer⟩
    · have deletes : mutation.handler = deleteTask := by
        rw [name] at known
        cases known
        rfl
      rw [deletes] at ran reran
      have state := deleteTask_twice
        (Request.ofMutation schema.catalog query selector options.dryRun) distinct
      rw [reran, ran]
      refine ⟨state, fun other => ?_⟩
      rw [name] at other
      exact absurd other (by decide)

theorem flagsIdempotent_iff (name : String) :
    schema.FlagsIdempotent name ↔ name = "update" ∨ name = "delete" := by
  constructor
  · rintro ⟨mutation, metadata, known, declared, flagged⟩
    obtain ⟨create, update, delete, whole, unflagged⟩ : ∃ create update delete, schema.mutations =
        [("create", create), ("update", update), ("delete", delete)]
          ∧ create.metadata.any MutationMetadata.idempotent = false := ⟨_, _, _, rfl, rfl⟩
    rw [whole] at known
    simp only [Entries.get?] at known
    split at known
    next =>
      cases known
      rw [declared, Option.any_some, flagged] at unflagged
      cases unflagged
    next =>
      split at known
      next same => exact .inl same.symm
      next =>
        split at known
        next same => exact .inr same.symm
        next => cases known
  · rintro (rfl | rfl)
    · exact ⟨_, _, rfl, rfl, rfl⟩
    · exact ⟨_, _, rfl, rfl, rfl⟩

theorem mutate_twice (submissions : List (MutationOptions × String)) {source : String}
    {batch : Batch} {query : Query} (parsed : Batch.parse source = .ok batch)
    (only : batch.queries = [query])
    (named : query.operation.text = "update" ∨ query.operation.text = "delete")
    (options : MutationOptions) :
    let store := (schema.mutateAll submissions TaskStore.withSampleTasks).state
    let once := schema.mutate options source store
    schema.FlagsIdempotent query.operation.text
    ∧ (∃ doubled, Batch.parse (source ++ ";" ++ source) = .ok doubled
      ∧ doubled.calls = [query.call, query.call])
    ∧ ∀ double doubled, Batch.parse double = .ok doubled →
      doubled.calls = [query.call, query.call] →
      let twice := schema.mutate options double store
      ∃ first second, once.answer = .ok (.single first)
        ∧ twice.answer = .ok (.batch [first, second])
        ∧ twice.state = once.state
        ∧ (query.operation.text = "update" → second = first) := by
  intro store once
  refine ⟨(flagsIdempotent_iff _).mpr named, ?_, ?_⟩
  · obtain ⟨doubled, doubledParsed, calls⟩ := Batch.parse_join parsed parsed
    refine ⟨doubled, doubledParsed, ?_⟩
    rw [calls, Batch.calls, only]
    rfl
  · intro double doubled doubledParsed calls twice
    have distinct : store.ids.Nodup := by
      rw [show store = _ from schema.mutateAll_state submissions TaskStore.withSampleTasks]
      exact (stateAfter_numbered _ TaskStore.withSampleTasks_numbered).nodup
    obtain ⟨state, answer⟩ := runMutation_twice options named distinct
    obtain ⟨first, reached⟩ := schema.submit_of_single parsed only (.mutate options) store
    have ran := schema.submit_of_ok (.mutate options) doubledParsed store
    have same : doubled.queries.map Query.call = [query, query].map Query.call := calls
    have spread := schema.fillSlots_congr (.mutate options) same store
    rw [spread.1, spread.2] at ran
    refine ⟨_, _, first, ran.1, ?_, ?_⟩
    · rw [show twice.state = _ from ran.2, show once.state = _ from reached]
      exact state
    · intro name
      exact congrArg Slot.ofResult (answer name)

theorem mutate_twice_sample :
    let deletion := "delete(task-8)"
    let change := "update(task-2, status=DONE, status=todo)"
    let full := TaskStore.withSampleTasks
    let fewer := (schema.mutateAll [(⟨true, false⟩, deletion)] full).state
    (∃ batch query, Batch.parse deletion = .ok batch ∧ batch.queries = [query]
      ∧ query.operation.text = "delete"
      ∧ (schema.mutate ⟨true, false⟩ (deletion ++ ";" ++ deletion) full).state =
        (schema.mutate ⟨true, false⟩ deletion full).state)
    ∧ ∃ batch query slot, Batch.parse change = .ok batch ∧ batch.queries = [query]
      ∧ query.operation.text = "update"
      ∧ (schema.mutate ⟨false, false⟩ (change ++ ";" ++ change) fewer).answer =
        .ok (.batch [slot, slot]) := by
  obtain ⟨first, firstParsed, firstCalls⟩ : ∃ batch,
      Batch.parse "delete(task-8)" = .ok batch ∧ batch.calls =
        [⟨"delete", [⟨none, .word "task-8"⟩], none⟩] :=
    Batch.parse_of_calls (by decide +kernel)
  obtain ⟨second, secondParsed, secondCalls⟩ : ∃ batch,
      Batch.parse "update(task-2, status=DONE, status=todo)" = .ok batch ∧ batch.calls =
        [⟨"update", [⟨none, .word "task-2"⟩, ⟨some "status", .word "DONE"⟩,
          ⟨some "status", .word "todo"⟩], none⟩] :=
    Batch.parse_of_calls (by decide +kernel)
  obtain ⟨deletes, firstOnly, deletesCall⟩ := Batch.single_of_calls firstCalls
  obtain ⟨updates, secondOnly, updatesCall⟩ := Batch.single_of_calls secondCalls
  have deleteName : deletes.operation.text = "delete" := congrArg Call.operation deletesCall
  have updateName : updates.operation.text = "update" := congrArg Call.operation updatesCall
  intro deletion change full fewer
  obtain ⟨-, ⟨twoDeletions, deletionsParsed, deletionsCalls⟩, deletedTwice⟩ :=
    mutate_twice [] firstParsed firstOnly (.inr deleteName) ⟨true, false⟩
  obtain ⟨-, ⟨twoChanges, changesParsed, changesCalls⟩, changedTwice⟩ :=
    mutate_twice [(⟨true, false⟩, deletion)] secondParsed secondOnly (.inl updateName)
      ⟨false, false⟩
  obtain ⟨_, _, _, _, deleted, _⟩ := deletedTwice _ twoDeletions deletionsParsed deletionsCalls
  obtain ⟨slot, again, _, changed, _, same⟩ :=
    changedTwice _ twoChanges changesParsed changesCalls
  rw [same updateName] at changed
  exact ⟨⟨first, deletes, firstParsed, firstOnly, deleteName, deleted⟩,
    second, updates, slot, secondParsed, secondOnly, updateName, changed⟩

end Task

end Inquiry
