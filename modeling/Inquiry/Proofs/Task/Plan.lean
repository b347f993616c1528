import Inquiry.Proofs.Execution.DryRun
import Inquiry.Task.Schema

set_option autoImplicit false

namespace Inquiry

namespace TaskStore

def taskAt (store : TaskStore) (id : String) : Except Failure Task :=
  match store.find? id with
  | some task => .ok task
  | none => .error (.taskNotFound id)

theorem find_run (id : String) (store : TaskStore) :
    (find id).run store = ⟨store.taskAt id, store, []⟩ := by
  cases found : store.find? id <;> simp [find, taskAt, found, Action.get]

section Located

variable {store : TaskStore} {id : String}

theorem update_of_located {task : Task} (changes : Task.Changes)
    (located : store.taskAt id = .ok task) :
    (update id changes).run store = ⟨.ok (task.change changes), store.change id changes, []⟩ :=
  Action.run_bind_of_ok _ ((find_run id store).trans (by rw [located]))

theorem update_of_missing {failure : Failure} (changes : Task.Changes)
    (missing : store.taskAt id = .error failure) :
    (update id changes).run store = ⟨.error failure, store, []⟩ :=
  Action.run_bind_of_error _ ((find_run id store).trans (by rw [missing]))

theorem remove_of_located {task : Task} (located : store.taskAt id = .ok task) :
    (remove id).run store = ⟨.ok task, store.erase id, [⟨.debug, s!"removing {id}"⟩]⟩ :=
  Action.run_bind_of_ok _ ((find_run id store).trans (by rw [located]))

theorem remove_of_missing {failure : Failure} (missing : store.taskAt id = .error failure) :
    (remove id).run store = ⟨.error failure, store, []⟩ :=
  Action.run_bind_of_error _ ((find_run id store).trans (by rw [missing]))

end Located

theorem find?_of_taskAt {store : TaskStore} {id : String} {task : Task}
    (located : store.taskAt id = .ok task) : store.find? id = some task := by
  unfold taskAt at located
  split at located
  next found =>
    cases located
    exact found
  next => cases located

theorem id_of_find? {store : TaskStore} {id : String} {task : Task}
    (found : store.find? id = some task) : task.id = id := by
  simpa using List.find?_some found

end TaskStore

namespace Task

inductive Plan where
  | create (proposal : Proposal)
  | update (task : Task) (changes : Changes)
  | delete (task : Task)

namespace Plan

def preview : Plan → Json
  | create proposal => previewCreate proposal
  | update task changes => previewUpdate task.id changes
  | delete task => previewDelete task

def output (store : TaskStore) : Plan → Output Task
  | create proposal => .item (store.taskOf proposal)
  | update task changes => .item (task.change changes)
  | delete task => .value (reportDelete task)

def apply (store : TaskStore) : Plan → TaskStore
  | create proposal => store.add proposal
  | update task changes => store.change task.id changes
  | delete task => store.erase task.id

def log (store : TaskStore) : Plan → List LogRecord
  | create proposal => [⟨.debug, s!"created {(store.taskOf proposal).id}"⟩]
  | update _ _ => []
  | delete task => [⟨.debug, s!"removing {task.id}"⟩]

end Plan

abbrev Planner := TaskRequest → TaskStore → Except Failure Plan

def planCreate : Planner := fun request _ => do
  let proposal ← proposalOf request
  return .create proposal

def planUpdate : Planner := fun request store => do
  let id ← request.requirePositional "task ID"
  let changes ← changesOf request
  let task ← store.taskAt id
  return .update task changes

def planDelete : Planner := fun request store => do
  let id ← request.requirePositional "task ID"
  let task ← store.taskAt id
  return .delete task

def carryOut (dryRun : Bool) (store : TaskStore) :
    Except Failure Plan → Ran TaskStore (Except Failure (Output Task))
  | .error failure => ⟨.error failure, store, []⟩
  | .ok plan =>
    if dryRun then ⟨.ok (.value plan.preview), store, []⟩
    else ⟨.ok (plan.output store), plan.apply store, plan.log store⟩

def Carries (handler : TaskHandler) (planner : Planner) : Prop :=
  ∀ request store, (handler request).run store =
    carryOut request.dryRun store (planner request store)

theorem createTask_carries : Carries createTask planCreate := by
  intro request store
  rw [createTask, planCreate]
  cases read : proposalOf request with
  | error failure => exact Action.run_lift_bind_of_error _ store rfl
  | ok proposal =>
    rw [Action.run_lift_bind_of_ok _ store rfl]
    cases request.dryRun <;> rfl

theorem updateTask_carries : Carries updateTask planUpdate := by
  intro request store
  rw [updateTask, planUpdate]
  cases addressed : request.requirePositional "task ID" with
  | error failure => exact Action.run_lift_bind_of_error _ store rfl
  | ok id =>
    rw [Action.run_lift_bind_of_ok _ store rfl]
    cases read : changesOf request with
    | error failure => exact Action.run_lift_bind_of_error _ store rfl
    | ok changes =>
      rw [Action.run_lift_bind_of_ok _ store rfl]
      change _ = carryOut _ store (store.taskAt id >>= fun task => .ok (.update task changes))
      have found := TaskStore.find_run id store
      cases located : store.taskAt id with
      | error failure =>
        rw [located] at found
        cases request.dryRun with
        | true => exact Action.run_bind_of_error _ found
        | false => exact Action.run_bind_of_error _ (TaskStore.update_of_missing changes located)
      | ok task =>
        rw [located] at found
        obtain rfl := TaskStore.id_of_find? (TaskStore.find?_of_taskAt located)
        cases request.dryRun with
        | true => exact Action.run_bind_of_ok _ found
        | false => exact Action.run_bind_of_ok _ (TaskStore.update_of_located changes located)

theorem deleteTask_carries : Carries deleteTask planDelete := by
  intro request store
  rw [deleteTask, planDelete]
  cases addressed : request.requirePositional "task ID" with
  | error failure => exact Action.run_lift_bind_of_error _ store rfl
  | ok id =>
    rw [Action.run_lift_bind_of_ok _ store rfl]
    change _ = carryOut _ store (store.taskAt id >>= fun task => .ok (.delete task))
    have found := TaskStore.find_run id store
    cases located : store.taskAt id with
    | error failure =>
      rw [located] at found
      cases request.dryRun with
      | true => exact Action.run_bind_of_error _ found
      | false => exact Action.run_bind_of_error _ (TaskStore.remove_of_missing located)
    | ok task =>
      rw [located] at found
      obtain rfl := TaskStore.id_of_find? (TaskStore.find?_of_taskAt located)
      cases request.dryRun with
      | true => exact Action.run_bind_of_ok _ found
      | false => exact Action.run_bind_of_ok _ (TaskStore.remove_of_located located)

section Handlers

variable {handler : TaskHandler} {planner : Planner} {request : TaskRequest} {store : TaskStore}

theorem runHandler_of_unplanned (carries : Carries handler planner) {failure : Failure}
    (unplanned : planner request store = .error failure) :
    (Registry.runHandler handler request).run store = ⟨.error failure, store, []⟩ := by
  apply Registry.runHandler_of_error
  rw [carries, unplanned, carryOut]

theorem runHandler_of_previewed (carries : Carries handler planner) {plan : Plan}
    (planned : planner request store = .ok plan) (dry : request.dryRun = true) :
    (Registry.runHandler handler request).run store = ⟨.ok (.value plan.preview), store, []⟩ := by
  have shown : (handler request).run store = ⟨.ok (.value plan.preview), store, []⟩ := by
    rw [carries, planned, carryOut, dry]
    rfl
  exact Registry.runHandler_of_ok shown

theorem runHandler_of_planned (carries : Carries handler planner) {plan : Plan}
    (planned : planner request store = .ok plan) (real : request.dryRun = false) :
    (Registry.runHandler handler request).run store =
      ⟨.ok (request.selector.project (plan.output store)), plan.apply store, plan.log store⟩ := by
  apply Registry.runHandler_of_ok
  rw [carries, planned, carryOut, real]
  rfl

theorem unplanned_of_error (carries : Carries handler planner) {failure : Failure}
    (failed : ((Registry.runHandler handler request).run store).answer = .error failure) :
    planner request store = .error failure := by
  cases planned : planner request store with
  | error other =>
    rw [runHandler_of_unplanned carries planned] at failed
    cases failed
    rfl
  | ok plan =>
    cases flag : request.dryRun with
    | true =>
      rw [runHandler_of_previewed carries planned flag] at failed
      cases failed
    | false =>
      rw [runHandler_of_planned carries planned flag] at failed
      cases failed

end Handlers

def Reads {α : Type} (parse? : String → Option α) (text? : Option String) (value? : Option α) :
    Prop :=
  text?.map parse? = value?.map some

inductive Plans (query : Query) (store : TaskStore) : Plan → Prop where
  | create {title : String} {status? : Option Status} {priority? : Option Priority}
      (name : query.operation.text = "create")
      (titled : query.namedParam? "title" = some title)
      (status : Reads Status.parse? (query.namedParam? "status") status?)
      (priority : Reads Priority.parse? (query.namedParam? "priority") priority?) :
      Plans query store (.create ⟨title, status?.getD .todo,
        (query.namedParam? "assignee").getD "", priority?.getD .medium⟩)
  | update {task : Task} {status? : Option Status} {priority? : Option Priority}
      (name : query.operation.text = "update")
      (addressed : query.positionalParams.head? = some task.id)
      (found : store.find? task.id = some task)
      (status : Reads Status.parse? (query.namedParam? "status") status?)
      (priority : Reads Priority.parse? (query.namedParam? "priority") priority?) :
      Plans query store (.update task ⟨query.namedParam? "title", status?,
        query.namedParam? "assignee", priority?⟩)
  | delete {task : Task} (name : query.operation.text = "delete")
      (addressed : query.positionalParams.head? = some task.id)
      (found : store.find? task.id = some task) :
      Plans query store (.delete task)

theorem reads_of_variantArg {α : Type} {request : TaskRequest} {key : String}
    {parse? : String → Option α} {value? : Option α}
    (read : variantArg request key parse? = .ok value?) :
    Reads parse? (request.arg? key) value? := by
  unfold variantArg at read
  unfold Reads
  split at read
  next absent =>
    cases read
    rw [absent]
    rfl
  next text present =>
    split at read
    next variant parsed =>
      cases read
      rw [present, Option.map_some, parsed]
      rfl
    next => cases read

theorem planCreate_eq_ok {request : TaskRequest} {store : TaskStore} {plan : Plan}
    (planned : planCreate request store = .ok plan) :
    ∃ title status? priority?, request.arg? "title" = some title
      ∧ Reads Status.parse? (request.arg? "status") status?
      ∧ Reads Priority.parse? (request.arg? "priority") priority?
      ∧ plan = .create ⟨title, status?.getD .todo, (request.arg? "assignee").getD "",
        priority?.getD .medium⟩ := by
  obtain ⟨proposal, read, made⟩ := exists_of_bind_eq_ok planned
  obtain ⟨title, given, read⟩ := exists_of_bind_eq_ok read
  obtain ⟨status?, statusRead, read⟩ := exists_of_bind_eq_ok read
  obtain ⟨priority?, priorityRead, read⟩ := exists_of_bind_eq_ok read
  cases read
  cases made
  exact ⟨title, status?, priority?, Request.arg?_of_requireArg given,
    reads_of_variantArg statusRead, reads_of_variantArg priorityRead, rfl⟩

theorem planUpdate_eq_ok {request : TaskRequest} {store : TaskStore} {plan : Plan}
    (planned : planUpdate request store = .ok plan) :
    ∃ task status? priority?, request.positional? = some task.id
      ∧ store.find? task.id = some task
      ∧ Reads Status.parse? (request.arg? "status") status?
      ∧ Reads Priority.parse? (request.arg? "priority") priority?
      ∧ plan = .update task
        ⟨request.arg? "title", status?, request.arg? "assignee", priority?⟩ := by
  obtain ⟨id, given, planned⟩ := exists_of_bind_eq_ok planned
  obtain ⟨changes, read, planned⟩ := exists_of_bind_eq_ok planned
  obtain ⟨task, located, made⟩ := exists_of_bind_eq_ok planned
  obtain ⟨status?, statusRead, read⟩ := exists_of_bind_eq_ok read
  obtain ⟨priority?, priorityRead, read⟩ := exists_of_bind_eq_ok read
  cases read
  cases made
  have found := TaskStore.find?_of_taskAt located
  obtain rfl := TaskStore.id_of_find? found
  exact ⟨task, status?, priority?, Request.positional?_of_requirePositional given, found,
    reads_of_variantArg statusRead, reads_of_variantArg priorityRead, rfl⟩

theorem planDelete_eq_ok {request : TaskRequest} {store : TaskStore} {plan : Plan}
    (planned : planDelete request store = .ok plan) :
    ∃ task, request.positional? = some task.id ∧ store.find? task.id = some task
      ∧ plan = .delete task := by
  obtain ⟨id, given, planned⟩ := exists_of_bind_eq_ok planned
  obtain ⟨task, located, made⟩ := exists_of_bind_eq_ok planned
  cases made
  have found := TaskStore.find?_of_taskAt located
  obtain rfl := TaskStore.id_of_find? found
  exact ⟨task, Request.positional?_of_requirePositional given, found, rfl⟩

section Written

variable {query : Query} {store : TaskStore} {plan : Plan} {catalog : Catalog TaskStore Task}
  {selector : Selector Task} {dryRun : Bool}

theorem Plans.of_planCreate (name : query.operation.text = "create")
    (planned : planCreate (.ofMutation catalog query selector dryRun) store = .ok plan) :
    Plans query store plan := by
  obtain ⟨title, status?, priority?, titled, status, priority, rfl⟩ := planCreate_eq_ok planned
  simp (disch := decide) only [Request.ofMutation_arg?] at titled status priority ⊢
  exact .create name titled status priority

theorem Plans.of_planUpdate (name : query.operation.text = "update")
    (planned : planUpdate (.ofMutation catalog query selector dryRun) store = .ok plan) :
    Plans query store plan := by
  obtain ⟨task, status?, priority?, addressed, found, status, priority, rfl⟩ :=
    planUpdate_eq_ok planned
  rw [Request.ofMutation_positional?] at addressed
  simp (disch := decide) only [Request.ofMutation_arg?] at status priority ⊢
  exact .update name addressed found status priority

theorem Plans.of_planDelete (name : query.operation.text = "delete")
    (planned : planDelete (.ofMutation catalog query selector dryRun) store = .ok plan) :
    Plans query store plan := by
  obtain ⟨task, addressed, found, rfl⟩ := planDelete_eq_ok planned
  rw [Request.ofMutation_positional?] at addressed
  exact .delete name addressed found

end Written

structure PlansBy (query : Query) (handler : TaskHandler) (planner : Planner) : Prop where
  carries : Carries handler planner
  flagless : ∀ request dryRun store,
    planner { request with dryRun } store = planner request store
  plans : ∀ {catalog selector dryRun store plan},
    planner (.ofMutation catalog query selector dryRun) store = .ok plan → Plans query store plan

theorem handler_of_known {name : String} {mutation : Mutation TaskHandler}
    (known : schema.mutations.get? name = some mutation) :
    (name = "create" ∧ mutation.handler = createTask)
    ∨ (name = "update" ∧ mutation.handler = updateTask)
    ∨ (name = "delete" ∧ mutation.handler = deleteTask) := by
  obtain ⟨create, update, delete, whole⟩ : ∃ create update delete, schema.mutations =
      [("create", ⟨createTask, create⟩), ("update", ⟨updateTask, update⟩),
        ("delete", ⟨deleteTask, delete⟩)] := ⟨_, _, _, rfl⟩
  rw [whole] at known
  simp only [Entries.get?] at known
  split at known
  next same =>
    cases known
    exact .inl ⟨same.symm, rfl⟩
  next =>
    split at known
    next same =>
      cases known
      exact .inr (.inl ⟨same.symm, rfl⟩)
    next =>
      split at known
      next same =>
        cases known
        exact .inr (.inr ⟨same.symm, rfl⟩)
      next => cases known

theorem plansBy_of_known {query : Query} {mutation : Mutation TaskHandler}
    (known : schema.mutations.get? query.operation.text = some mutation) :
    ∃ planner, PlansBy query mutation.handler planner := by
  rcases handler_of_known known with ⟨name, handler⟩ | ⟨name, handler⟩ | ⟨name, handler⟩
  · rw [handler]
    exact ⟨planCreate, createTask_carries, fun _ _ _ => rfl, .of_planCreate name⟩
  · rw [handler]
    exact ⟨planUpdate, updateTask_carries, fun _ _ _ => rfl, .of_planUpdate name⟩
  · rw [handler]
    exact ⟨planDelete, deleteTask_carries, fun _ _ _ => rfl, .of_planDelete name⟩

theorem schema_coherent : schema.Coherent := by
  have built : (Draft.empty.registerAll registrations).build = .ok schema := rfl
  exact Registry.coherent_of_build built

section Runs

variable (query : Query) (store : TaskStore)

theorem runMutation_settles (confirmed : Bool) :
    (∃ failure, ∀ dryRun, ∃ log, (schema.runMutation ⟨confirmed, dryRun⟩ query).run store =
      ⟨.error failure, store, log⟩)
    ∨ ∃ plan selector, Plans query store plan
      ∧ schema.selector query.requestedFields = .ok selector
      ∧ ∀ dryRun, (schema.runMutation ⟨confirmed, dryRun⟩ query).run store =
        if query.asksDryRun || dryRun then ⟨.ok (.value plan.preview), store, []⟩
        else ⟨.ok (selector.project (plan.output store)), plan.apply store, plan.log store⟩ := by
  rcases schema.runMutation_cases query confirmed store with
    stopped | ⟨mutation, selector, known, resolved, reached⟩
  · exact .inl stopped
  · obtain ⟨planner, planned⟩ := plansBy_of_known known
    let request := Request.ofMutation schema.catalog query selector
    have ran : ∀ dryRun, (mutation.handler (request dryRun)).run store =
        carryOut (query.asksDryRun || dryRun) store (planner (request false) store) := by
      intro dryRun
      have flagged : request dryRun =
          { request false with dryRun := query.asksDryRun || dryRun } :=
        Request.ofMutation_eq_of_flag schema.catalog query selector dryRun
      rw [planned.carries, flagged, planned.flagless]
    have projection : ∀ dryRun, (request dryRun).selector = selector :=
      Request.ofMutation_selector schema.catalog query selector
    cases verdict : planner (request false) store with
    | error failure =>
      simp only [verdict, carryOut] at ran
      exact .inl ⟨failure, fun dryRun => ⟨[],
        (reached dryRun).trans (Registry.runHandler_of_error (ran dryRun))⟩⟩
    | ok plan =>
      refine .inr ⟨plan, selector, planned.plans verdict, resolved, fun dryRun => ?_⟩
      have act := ran dryRun
      rw [verdict, carryOut] at act
      rw [reached]
      split
      next dry =>
        rw [if_pos dry] at act
        exact Registry.runHandler_of_ok act
      next real =>
        rw [if_neg real] at act
        rw [Registry.runHandler_of_ok act, projection]

theorem runMutation_of_failed {options : MutationOptions}
    (failed : (Slot.ofResult
      ((schema.runMutation options query).run store).answer).isFailure = true) :
    ∃ failure log, (schema.runMutation options query).run store = ⟨.error failure, store, log⟩ := by
  rcases runMutation_settles query store options.confirmed with
    ⟨failure, stopped⟩ | ⟨plan, selector, -, -, ran⟩
  · exact ⟨failure, stopped options.dryRun⟩
  · have same := ran options.dryRun
    split at same
    next =>
      rw [same] at failed
      cases failed
    next =>
      rw [same, Slot.ofResult, selector.isFailure_project] at failed
      cases failed

theorem runMutation_state (options : MutationOptions) :
    ((schema.runMutation options query).run store).state = store
      ∨ ∃ plan, Plans query store plan
        ∧ ((schema.runMutation options query).run store).state = plan.apply store := by
  obtain ⟨confirmed, dryRun⟩ := options
  rcases runMutation_settles query store confirmed with
    ⟨failure, stopped⟩ | ⟨plan, selector, plans, -, ran⟩
  · obtain ⟨log, same⟩ := stopped dryRun
    exact .inl (by rw [same])
  · rw [ran dryRun]
    split
    next => exact .inl rfl
    next => exact .inr ⟨plan, plans, rfl⟩

end Runs

end Task

end Inquiry
