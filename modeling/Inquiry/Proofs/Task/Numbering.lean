import Inquiry.Proofs.Execution.Session
import Inquiry.Proofs.Task.Plan

set_option autoImplicit false

namespace Inquiry

namespace TaskStore

theorem toList_idOf (number : Nat) :
    (idOf number).toList = "task-".toList ++ Nat.toDigits 10 number := by
  rw [idOf, String.toList_append, Nat.toString_eq_ofList_toDigits, String.toList_ofList]
  rfl

theorem idOf_injective {number other : Nat} (same : idOf number = idOf other) :
    number = other := by
  have texts := congrArg String.toList same
  rw [toList_idOf, toList_idOf] at texts
  have values := congrArg (Nat.ofDigitChars 10 · 0) (List.append_cancel_left texts)
  simpa [Nat.ofDigitChars_toDigits] using values

def ids (store : TaskStore) : List String := store.tasks.map Task.id

structure Numbered (store : TaskStore) : Prop where
  positive : 1 ≤ store.nextId
  ids : ∃ numbers : List Nat, store.ids = numbers.map idOf ∧ numbers.Pairwise (· < ·)
    ∧ ∀ number ∈ numbers, 1 ≤ number ∧ number < store.nextId

namespace Numbered

variable {store : TaskStore}

theorem nodup (numbered : store.Numbered) : store.ids.Nodup := by
  obtain ⟨numbers, whole, increasing, -⟩ := numbered.ids
  rw [whole, List.Nodup, List.pairwise_map]
  exact increasing.imp fun less same => Nat.ne_of_lt less (idOf_injective same)

theorem exists_of_mem (numbered : store.Numbered) {id : String} (member : id ∈ store.ids) :
    ∃ number, id = idOf number ∧ 1 ≤ number ∧ number < store.nextId := by
  obtain ⟨numbers, whole, -, bounds⟩ := numbered.ids
  rw [whole] at member
  obtain ⟨number, inNumbers, rfl⟩ := List.mem_map.mp member
  exact ⟨number, rfl, bounds number inNumbers⟩

theorem idOf_nextId_not_mem (numbered : store.Numbered) : idOf store.nextId ∉ store.ids := by
  intro member
  obtain ⟨number, same, -, below⟩ := numbered.exists_of_mem member
  exact Nat.ne_of_gt below (idOf_injective same)

theorem add (numbered : store.Numbered) (proposal : Task.Proposal) :
    (store.add proposal).Numbered := by
  obtain ⟨numbers, whole, increasing, bounds⟩ := numbered.ids
  refine ⟨Nat.le_add_left 1 store.nextId, numbers ++ [store.nextId], ?_, ?_, ?_⟩
  · simp only [TaskStore.ids, TaskStore.add, List.map_append, List.map_cons, List.map_nil]
    rw [← whole]
    rfl
  · rw [List.pairwise_append]
    exact ⟨increasing, List.pairwise_singleton _ _, fun number member other last => by
      rw [List.mem_singleton.mp last]
      exact (bounds number member).2⟩
  · intro number member
    rcases List.mem_append.mp member with old | new
    · exact ⟨(bounds number old).1, Nat.lt_succ_of_lt (bounds number old).2⟩
    · rw [List.mem_singleton.mp new]
      exact ⟨numbered.positive, Nat.lt_succ_self _⟩

theorem of_ids_sublist (numbered : store.Numbered) {after : TaskStore}
    (fewer : after.ids.Sublist store.ids) (same : after.nextId = store.nextId) :
    after.Numbered := by
  obtain ⟨numbers, whole, increasing, bounds⟩ := numbered.ids
  rw [whole] at fewer
  obtain ⟨kept, part, keptWhole⟩ := List.sublist_map_iff.mp fewer
  rw [← same] at bounds
  exact ⟨same ▸ numbered.positive, kept, keptWhole, increasing.sublist part,
    fun number member => bounds number (part.subset member)⟩

end Numbered

theorem map_id_changeFirst (changes : Task.Changes) (id : String) (tasks : List Task) :
    (changeFirst changes id tasks).map Task.id = tasks.map Task.id := by
  induction tasks with
  | nil => rfl
  | cons task rest ih =>
    by_cases same : task.id = id
    · simp [changeFirst, same, Task.change]
    · simp [changeFirst, same, ih]

theorem ids_change (store : TaskStore) (id : String) (changes : Task.Changes) :
    (store.change id changes).ids = store.ids :=
  map_id_changeFirst changes id store.tasks

theorem ids_erase_sublist (store : TaskStore) (id : String) :
    (store.erase id).ids.Sublist store.ids :=
  List.eraseP_sublist.map Task.id

theorem withSampleTasks_numbered : withSampleTasks.Numbered :=
  ⟨by decide, [1, 2, 3, 4, 5, 6, 7, 8], rfl, by decide, by decide⟩

structure Precedes (before after : TaskStore) : Prop where
  nextId : before.nextId ≤ after.nextId
  ids : ∀ id ∈ after.ids, id ∈ before.ids ∨ ∃ number, before.nextId ≤ number ∧ id = idOf number

namespace Precedes

theorem refl (store : TaskStore) : store.Precedes store :=
  ⟨Nat.le_refl _, fun _ member => .inl member⟩

theorem trans {first second third : TaskStore} (early : first.Precedes second)
    (late : second.Precedes third) : first.Precedes third := by
  refine ⟨Nat.le_trans early.nextId late.nextId, fun id member => ?_⟩
  rcases late.ids id member with known | ⟨number, unused, rfl⟩
  · exact early.ids id known
  · exact .inr ⟨number, Nat.le_trans early.nextId unused, rfl⟩

theorem not_mem {first second third : TaskStore} (numbered : first.Numbered)
    (early : first.Precedes second) (late : second.Precedes third) {id : String}
    (present : id ∈ first.ids) (gone : id ∉ second.ids) : id ∉ third.ids := by
  intro back
  obtain ⟨number, rfl, -, below⟩ := numbered.exists_of_mem present
  rcases late.ids _ back with known | ⟨other, unused, same⟩
  · exact gone known
  · have equal := idOf_injective same
    have bound := early.nextId
    omega

end Precedes

end TaskStore

namespace Task

theorem Plan.numbered_apply (plan : Plan) {store : TaskStore} (numbered : store.Numbered) :
    (plan.apply store).Numbered := by
  cases plan with
  | create proposal => exact numbered.add proposal
  | update task changes =>
    have same := store.ids_change task.id changes
    exact numbered.of_ids_sublist (same ▸ List.Sublist.refl _) rfl
  | delete task => exact numbered.of_ids_sublist (store.ids_erase_sublist task.id) rfl

theorem Plan.precedes_apply (plan : Plan) (store : TaskStore) :
    store.Precedes (plan.apply store) := by
  cases plan with
  | create proposal =>
    refine ⟨Nat.le_succ _, fun id member => ?_⟩
    have members : id ∈ store.ids ++ [TaskStore.idOf store.nextId] := by
      simpa [TaskStore.ids, Plan.apply, TaskStore.add, TaskStore.taskOf] using member
    rcases List.mem_append.mp members with old | new
    · exact .inl old
    · exact .inr ⟨store.nextId, Nat.le_refl _, List.mem_singleton.mp new⟩
  | update task changes =>
    refine ⟨Nat.le_refl _, fun id member => .inl ?_⟩
    rwa [Plan.apply, TaskStore.ids_change] at member
  | delete task =>
    exact ⟨Nat.le_refl _, fun id member => .inl ((store.ids_erase_sublist task.id).subset member)⟩

theorem runMutation_numbered (options : MutationOptions) (query : Query) {store : TaskStore}
    (numbered : store.Numbered) :
    ((schema.runMutation options query).run store).state.Numbered := by
  rcases runMutation_state query store options with same | ⟨plan, -, applied⟩
  · rwa [same]
  · rw [applied]
    exact plan.numbered_apply numbered

theorem precedes_runMutation (options : MutationOptions) (query : Query) (store : TaskStore) :
    store.Precedes ((schema.runMutation options query).run store).state := by
  rcases runMutation_state query store options with same | ⟨plan, -, applied⟩
  · rw [same]
    exact .refl store
  · rw [applied]
    exact plan.precedes_apply store

section Sessions

variable (steps : List (MutationOptions × Query))

theorem stateAfter_numbered {store : TaskStore} (numbered : store.Numbered) :
    (schema.stateAfter steps store).Numbered :=
  schema.stateAfter_preserves (fun step _ _ before => runMutation_numbered step.1 step.2 before)
    numbered

theorem precedes_stateAfter (store : TaskStore) :
    store.Precedes (schema.stateAfter steps store) :=
  schema.stateAfter_preserves (P := store.Precedes)
    (fun step _ state before => before.trans (precedes_runMutation step.1 step.2 state))
    (.refl store)

end Sessions

def slotsFilled (submission : MutationOptions × String) :
    Except ParseError Outcome → List ((MutationOptions × Query) × Slot)
  | .ok outcome => (Registry.stepsOf submission).zip outcome.slots
  | .error _ => []

def creates : (MutationOptions × Query) × Slot → Bool
  | ((options, query), slot) =>
    query.operation.text == "create" && !(query.asksDryRun || options.dryRun) && !slot.isFailure

theorem Plans.nextId_apply {query : Query} {store : TaskStore} {plan : Plan}
    (plans : Plans query store plan) :
    (plan.apply store).nextId =
      store.nextId + if query.operation.text = "create" then 1 else 0 := by
  cases plans with
  | create name => rw [name]; rfl
  | update name => rw [name]; rfl
  | delete name => rw [name]; rfl

theorem nextId_runMutation (options : MutationOptions) (query : Query) (store : TaskStore) :
    ((schema.runMutation options query).run store).state.nextId =
      store.nextId + if creates ((options, query),
        .ofResult ((schema.runMutation options query).run store).answer) then 1 else 0 := by
  obtain ⟨confirmed, dryRun⟩ := options
  rcases runMutation_settles query store confirmed with
    ⟨failure, stopped⟩ | ⟨plan, selector, plans, -, ran⟩
  · obtain ⟨log, same⟩ := stopped dryRun
    rw [same]
    simp [creates, Slot.ofResult, Slot.isFailure, Slot.failure?]
  · rw [ran dryRun]
    split
    next dry => simp [creates, dry]
    next real =>
      rw [plans.nextId_apply]
      simp [creates, real, Slot.ofResult, selector.isFailure_project]

theorem nextId_fillSlots (options : MutationOptions) (queries : List Query) (store : TaskStore) :
    let ran := schema.fillSlots (.mutate options) queries store
    ran.state.nextId = store.nextId +
      ((queries.map fun query => (options, query)).zip ran.answer).countP creates := by
  induction queries generalizing store with
  | nil => rfl
  | cons query rest ih =>
    intro ran
    have first : (schema.fillSlot (.mutate options) query store).state.nextId = store.nextId +
        if creates ((options, query), (schema.fillSlot (.mutate options) query store).answer) then 1
        else 0 := nextId_runMutation options query store
    have later := ih (schema.fillSlot (.mutate options) query store).state
    have split := schema.fillSlots_cons (.mutate options) query rest store
    simp only [ran]
    rw [split.1, split.2, later, first, List.map_cons, List.zip_cons_cons, List.countP_cons]
    omega

theorem nextId_mutate (submission : MutationOptions × String) (store : TaskStore) :
    let run := schema.mutate submission.1 submission.2 store
    run.state.nextId = store.nextId + (slotsFilled submission run.answer).countP creates := by
  obtain ⟨options, source⟩ := submission
  intro run
  cases parsed : Batch.parse source with
  | ok batch =>
    obtain ⟨answer, reached⟩ := schema.submit_of_ok (.mutate options) parsed store
    simp only [Registry.submit] at answer reached
    simp only [run, slotsFilled, Registry.stepsOf, parsed, answer, reached, Outcome.slots_ofSlots]
    exact nextId_fillSlots options batch.queries store
  | error error =>
    have ran := schema.submit_of_error (.mutate options) parsed store
    simp only [Registry.submit] at ran
    simp only [run, slotsFilled, ran, List.countP_nil, Nat.add_zero]

theorem nextId_mutateAll (submissions : List (MutationOptions × String)) (store : TaskStore) :
    let run := schema.mutateAll submissions store
    run.state.nextId = store.nextId + ((submissions.zip run.answer).flatMap
      fun (submission, answer) => slotsFilled submission answer).countP creates := by
  induction submissions generalizing store with
  | nil => rfl
  | cons submission rest ih =>
    intro run
    have first := nextId_mutate submission store
    have later := ih (schema.mutate submission.1 submission.2 store).state
    have split := schema.mutateAll_cons submission.1 submission.2 rest store
    simp only [run]
    rw [split.1, split.2, later, first, List.zip_cons_cons, List.flatMap_cons, List.countP_append,
      Nat.add_assoc]

/-- From the sample tasks on, whatever texts are run, ids are distinct and in the order of their
numbers, and an id that is gone is gone for good. -/
theorem mutateAll_numbers (submissions : List (MutationOptions × String)) :
    let first := TaskStore.withSampleTasks
    let run := schema.mutateAll submissions first
    let steps := submissions.flatMap Registry.stepsOf
    run.state.ids.Nodup
    ∧ (∃ numbers : List Nat, run.state.ids = numbers.map TaskStore.idOf
      ∧ numbers.Pairwise (· < ·) ∧ ∀ number ∈ numbers, 1 ≤ number ∧ number < run.state.nextId)
    ∧ run.state.nextId = first.nextId + ((submissions.zip run.answer).flatMap
      fun (submission, answer) => slotsFilled submission answer).countP creates
    ∧ run.state = schema.stateAfter steps first
    ∧ ∀ early middle late, early ++ middle ++ late <+: steps → ∀ id,
      id ∈ (schema.stateAfter early first).ids →
      id ∉ (schema.stateAfter (early ++ middle) first).ids →
      id ∉ (schema.stateAfter (early ++ middle ++ late) first).ids := by
  intro first run steps
  have reached : run.state = schema.stateAfter steps first :=
    schema.mutateAll_state submissions first
  have numbered : run.state.Numbered :=
    reached ▸ stateAfter_numbered steps TaskStore.withSampleTasks_numbered
  refine ⟨numbered.nodup, numbered.ids, nextId_mutateAll submissions first, reached, ?_⟩
  intro early middle late _ id present gone
  rw [schema.stateAfter_append] at gone
  rw [schema.stateAfter_append, schema.stateAfter_append]
  exact TaskStore.Precedes.not_mem
    (stateAfter_numbered early TaskStore.withSampleTasks_numbered)
    (precedes_stateAfter middle _) (precedes_stateAfter late _) present gone

theorem mutateAll_numbers_sample :
    let first := TaskStore.withSampleTasks
    let deletion := Registry.stepsOf (⟨true, false⟩, "delete(task-8)")
    let creation := Registry.stepsOf (⟨false, false⟩, "create(title=x)")
    "task-8" ∈ (schema.stateAfter [] first).ids
    ∧ "task-8" ∉ (schema.stateAfter ([] ++ deletion) first).ids
    ∧ "task-8" ∉ (schema.stateAfter ([] ++ deletion ++ creation) first).ids := by
  intro first deletion creation
  have present : "task-8" ∈ (schema.stateAfter [] first).ids := by decide
  have gone : "task-8" ∉ (schema.stateAfter ([] ++ deletion) first).ids := by
    rw [List.nil_append, ← schema.mutate_state, schema.mutate_eq]
    decide +kernel
  obtain ⟨_, _, _, _, lasting⟩ :=
    mutateAll_numbers [(⟨true, false⟩, "delete(task-8)"), (⟨false, false⟩, "create(title=x)")]
  exact ⟨present, gone, lasting [] deletion creation (by simp [deletion, creation]) _ present gone⟩

end Task

end Inquiry
