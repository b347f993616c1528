import Inquiry.Proofs.Execution.Dismissal
import Inquiry.Proofs.Execution.DryRun
import Inquiry.Proofs.Execution.Session
import Inquiry.Proofs.Request.Paging
import Inquiry.Proofs.Request.Selection

set_option autoImplicit false

namespace Inquiry

namespace Argument

def last? (arguments : List Argument) (key : String) : Option String :=
  ((arguments.filter fun argument => argument.key = some key).map fun argument =>
    argument.value.text).getLast?

def keyed (arguments : List Argument) : List Argument :=
  arguments.filter fun argument => argument.key.isSome

def unpaged (arguments : List Argument) : List Argument :=
  arguments.filter fun argument => !argument.key.any Request.isPageKey

theorem last?_filter {keep : Argument → Bool} {key : String}
    (kept : ∀ argument, argument.key = some key → keep argument = true)
    (arguments : List Argument) : last? (arguments.filter keep) key = last? arguments key := by
  rw [last?, last?, List.filter_filter]
  congr 2
  apply List.filter_congr
  intro argument _
  by_cases same : argument.key = some key
  · simp [same, kept argument same]
  · simp [same]

theorem last?_keyed (arguments : List Argument) (key : String) :
    last? (keyed arguments) key = last? arguments key :=
  last?_filter (fun argument given => by simp [given]) arguments

theorem last?_unpaged {key : String} (bare : Request.isPageKey key = false)
    (arguments : List Argument) : last? (unpaged arguments) key = last? arguments key :=
  last?_filter (fun argument given => by simp [given, bare]) arguments

theorem isPageKey_of_unpaged {arguments : List Argument} {operation : String}
    {fields : Option (List String)} {param : String × String}
    (member : param ∈ Call.named ⟨operation, unpaged arguments, fields⟩) :
    Request.isPageKey param.1 = false := by
  obtain ⟨argument, kept, made⟩ := List.mem_filterMap.mp member
  obtain ⟨key, given, rfl⟩ := Option.map_eq_some_iff.mp made
  simpa [given] using (List.mem_filter.mp kept).2

theorem get?_ofPairs_named (call : Call) (key : String) :
    (Entries.ofPairs call.named).get? key = last? call.arguments key := by
  rw [Entries.get?_ofPairs, last?, Call.named]
  congr 1
  induction call.arguments with
  | nil => rfl
  | cons argument rest ih =>
    obtain ⟨name?, value⟩ := argument
    cases name? with
    | none => simpa using ih
    | some name => by_cases same : name = key <;> simpa [same] using ih

end Argument

namespace Task

def filterables : Entries (Task → String) :=
  [("status", fun task => task.status.name), ("assignee", Task.assignee),
    ("priority", fun task => task.priority.name)]

-- Of each key the last value counts, and case does not matter.
def selects (arguments : List Argument) (task : Task) : Bool :=
  filterables.all fun (key, read) =>
    (Argument.last? arguments key).all fun value => Text.equalIgnoringCase (read task) value

theorem selects_iff (arguments : List Argument) (task : Task) :
    selects arguments task = true ↔
      ∀ key read value, filterables.get? key = some read →
        Argument.last? arguments key = some value →
        Text.equalIgnoringCase (read task) value = true := by
  have once : filterables.keys.Nodup := by decide
  rw [selects, List.all_eq_true]
  constructor
  next =>
    intro all key read value filterable given
    have holds := all (key, read) ((Entries.mem_iff_get? once key read).mpr filterable)
    simpa [given] using holds
  next =>
    rintro each ⟨key, read⟩ member
    rw [Option.all_eq_true]
    have filterable := (Entries.mem_iff_get? once key read).mp member
    exact fun value given => each key read value filterable given

theorem selects_keyed (arguments : List Argument) :
    selects (Argument.keyed arguments) = selects arguments := by
  funext task
  simp only [selects, Argument.last?_keyed]

theorem selects_unpaged (arguments : List Argument) :
    selects (Argument.unpaged arguments) = selects arguments := by
  funext task
  simp (disch := decide) only [selects, filterables, List.all_cons, List.all_nil,
    Argument.last?_unpaged]

theorem selects_nil : selects [] = fun _ => true := rfl

theorem selects_single {key : String} {read : Task → String}
    (filterable : filterables.get? key = some read) (value : Value) (task : Task) :
    selects [⟨some key, value⟩] task = Text.equalIgnoringCase (read task) value.text := by
  have given (other : String) : Argument.last? [⟨some key, value⟩] other =
      if key = other then some value.text else none := by
    by_cases same : key = other <;> simp [Argument.last?, same]
  rw [Bool.eq_iff_iff, selects_iff]
  constructor
  next => exact fun each => each key read value.text filterable (by simp [given])
  next =>
    intro holds other readOther text filterableOther givenOther
    rw [given] at givenOther
    split at givenOther
    next same =>
      subst same
      cases givenOther
      cases filterable.symm.trans filterableOther
      exact holds
    next => cases givenOther

theorem equalIgnoringCase_name (status other : Status) :
    Text.equalIgnoringCase status.name other.name = decide (status = other) := by
  cases status <;> cases other <;> decide

def answer (store : TaskStore) (call : Call) : Slot :=
  .ofResult ((schema.runRead call.query).run store).answer

def countOf (number : Nat) : Slot := .value (.object [("count", .ofNat number)])

def summaryOf (total : Nat) (number : Status → Nat) : Slot :=
  let counts := Status.all.map fun status => (status.name, Json.ofNat (number status))
  .value (.object [("total", .ofNat total), ("counts", .object counts)])

def requestOf (call : Call) (selector : Selector Task) : TaskRequest :=
  .ofArguments schema.catalog call.operation call.positional call.named selector

theorem accepts_requestOf (call : Call) (selector : Selector Task) :
    (requestOf call selector).predicate.accepts = selects call.arguments := by
  funext task
  rw [Bool.eq_iff_iff, selects_iff]
  refine (Registry.accepts_predicate_iff schema.catalog (Entries.nodup_keys_ofPairs call.named)
    task).trans ?_
  simp only [Argument.get?_ofPairs_named]
  rfl

theorem ofRead_query (call : Call) (selector : Selector Task) :
    Request.ofRead schema.catalog call.query selector = requestOf call selector := by
  rw [Request.ofRead, call.query.positionalParams_eq_positional,
    call.query.namedParams_eq_named, call.call_query]
  rfl

theorem execute_of_calls {source : String} {batch : Batch} {call : Call}
    (parsed : Batch.parse source = .ok batch) (calls : batch.calls = [call]) (store : TaskStore) :
    (schema.execute source store).answer = .ok (.single (answer store call)) := by
  obtain ⟨query, only, same⟩ := Batch.single_of_calls calls
  have sameCall : query.call = call.query.call := by rw [same, call.call_query]
  have answered := (schema.submit_of_single parsed only .read store).1
  rw [schema.runQuery_congr .read sameCall] at answered
  exact answered

section Answers

variable (store : TaskStore) {call : Call} {handler : TaskHandler} {metadata : Option Metadata}
  (known : schema.operations.get? call.operation = some ⟨handler, metadata⟩)

include known

theorem answer_of_unresolved {failure : Failure}
    (unresolved : schema.selector call.requested = .error failure) :
    answer store call = .failure failure := by
  rw [← call.call_query, ← call.query.requestedFields_eq_requested] at unresolved
  rw [answer, Registry.runRead_of_known known,
    Action.run_lift_bind_of_error _ store unresolved]
  rfl

theorem answer_of_resolved {selector : Selector Task}
    (resolved : schema.selector call.requested = .ok selector) :
    answer store call =
      .ofResult ((Registry.runHandler handler (requestOf call selector)).run store).answer := by
  rw [← call.call_query, ← call.query.requestedFields_eq_requested] at resolved
  rw [answer, Registry.runRead_of_known known, Action.run_lift_bind_of_ok _ store resolved,
    ofRead_query]

theorem answer_of_ran {selector : Selector Task}
    (resolved : schema.selector call.requested = .ok selector) {output : Output Task}
    (ran : (handler (requestOf call selector)).run store = ⟨.ok output, store, []⟩) :
    answer store call = selector.project output := by
  rw [answer_of_resolved store known resolved, Registry.runHandler_of_ok ran]
  rfl

theorem answer_of_value (bare : call.fields = none) {value : Json}
    (ran : ∀ selector, (handler (requestOf call selector)).run store =
      ⟨.ok (.value value), store, []⟩) :
    answer store call = .value value := by
  obtain ⟨selector, standard⟩ : ∃ selector, schema.selector [] = .ok selector := ⟨_, rfl⟩
  have resolved : schema.selector call.requested = .ok selector := by
    rw [Call.requested, bare]
    exact standard
  exact answer_of_ran store known resolved (ran selector)

theorem answer_of_failed {selector : Selector Task}
    (resolved : schema.selector call.requested = .ok selector) {failure : Failure}
    (failed : (handler (requestOf call selector)).run store = ⟨.error failure, store, []⟩) :
    answer store call = .failure failure := by
  rw [answer_of_resolved store known resolved, Registry.runHandler_of_error failed]
  rfl

end Answers

theorem items_run (call : Call) (selector : Selector Task) (store : TaskStore) :
    (requestOf call selector).items.run store = ⟨.ok store.tasks, store, []⟩ := rfl

section Reads

variable (store : TaskStore) (arguments : List Argument)

theorem answer_count :
    answer store ⟨"count", arguments, none⟩ = countOf (store.tasks.countP (selects arguments)) := by
  let call : Call := ⟨"count", arguments, none⟩
  obtain ⟨metadata, known⟩ : ∃ metadata, schema.operations.get? call.operation =
      some ⟨countTasks, metadata⟩ := ⟨_, rfl⟩
  refine answer_of_value store known rfl fun selector => ?_
  rw [countTasks, Action.run_bind_of_ok _ (items_run call selector store), Predicate.count,
    accepts_requestOf]
  rfl

theorem answer_summary :
    answer store ⟨"summary", arguments, none⟩ = summaryOf store.tasks.length fun status =>
      store.tasks.countP fun task => task.status = status := by
  let call : Call := ⟨"summary", arguments, none⟩
  obtain ⟨metadata, known⟩ : ∃ metadata, schema.operations.get? call.operation =
      some ⟨summarizeTasks, metadata⟩ := ⟨_, rfl⟩
  exact answer_of_value store known rfl fun selector =>
    Action.run_bind_of_ok _ (items_run call selector store)

theorem answer_distinct {field : String} {read : Task → String}
    (filterable : filterables.get? field = some read) {name : Value} (named : name.text = field) :
    answer store ⟨"distinct", ⟨none, name⟩ :: Argument.keyed arguments, none⟩ =
      .value (.ofStrings ((store.tasks.filter (selects arguments)).map read).eraseDups) := by
  let call : Call := ⟨"distinct", ⟨none, name⟩ :: Argument.keyed arguments, none⟩
  obtain ⟨metadata, known⟩ : ∃ metadata, schema.operations.get? call.operation =
      some ⟨listDistinct, metadata⟩ := ⟨_, rfl⟩
  refine answer_of_value store known rfl fun selector => ?_
  have asked : (requestOf call selector).distinctField = .ok field := congrArg Except.ok named
  have accessor : (requestOf call selector).filterAccessor field = .ok read := by
    have located : (requestOf call selector).catalog.filters.get? field = some read := filterable
    rw [Request.filterAccessor, located]
  have selected : selects call.arguments = selects arguments := selects_keyed arguments
  rw [listDistinct, Action.run_lift_bind_of_ok _ store asked,
    Action.run_lift_bind_of_ok _ store accessor,
    Action.run_bind_of_ok _ (items_run call selector store), Predicate.filter, accepts_requestOf,
    selected]
  rfl

theorem answer_list (fields : Option (List String)) :
    let list := answer store ⟨"list", Argument.unpaged arguments, fields⟩
    list.isFailure = false → ∃ columns rows, list = .records columns rows
      ∧ rows.length = store.tasks.countP (selects arguments) := by
  intro list works
  let call : Call := ⟨"list", Argument.unpaged arguments, fields⟩
  obtain ⟨metadata, known⟩ : ∃ metadata, schema.operations.get? call.operation =
      some ⟨listTasks, metadata⟩ := ⟨_, rfl⟩
  cases resolved : schema.selector call.requested with
  | error failure =>
    rw [show list = _ from answer_of_unresolved store known resolved] at works
    cases works
  | ok selector =>
    have loaded := items_run call selector store
    cases picked : (requestOf call selector).applyPipeline store.tasks with
    | error failure =>
      have failed : (listTasks (requestOf call selector)).run store =
          ⟨.error failure, store, []⟩ := by
        rw [listTasks, Action.run_bind_of_ok _ loaded]
        exact Action.run_lift_bind_of_error _ store picked
      rw [show list = _ from answer_of_failed store known resolved failed] at works
      cases works
    | ok tasks =>
      have ran : (listTasks (requestOf call selector)).run store =
          ⟨.ok (.items tasks), store, []⟩ := by
        rw [listTasks, Action.run_bind_of_ok _ loaded]
        exact Action.run_lift_bind_of_ok _ store picked
      have whole : (requestOf call selector).page = .ok .whole :=
        Request.page_of_bare _ _ _ selector fun _ member => Argument.isPageKey_of_unpaged member
      obtain ⟨specs, -, sorted⟩ := Request.exists_sorted_of_applyPipeline whole picked
      refine ⟨selector.fields, tasks.map selector.row, answer_of_ran store known resolved ran, ?_⟩
      rw [List.length_map, (Request.perm_of_sort sorted).length_eq, Predicate.filter,
        accepts_requestOf, ← List.countP_eq_length_filter, selects_unpaged]

end Reads

theorem add_countP_status (tasks : List Task) :
    let number := fun status => tasks.countP fun task => task.status = status
    number .todo + number .inProgress + number .done = tasks.length := by
  intro number
  simp only [number]
  induction tasks with
  | nil => rfl
  | cons task rest ih => cases status : task.status <;> simp [status] <;> omega

section Agreement

variable (store : TaskStore)

theorem countP_status {status : Status} {value : Value} (named : value.text = status.name) :
    store.tasks.countP (selects [⟨some "status", value⟩]) =
      store.tasks.countP fun task => task.status = status := by
  congr 1
  funext task
  rw [selects_single rfl, named, equalIgnoringCase_name]

variable {field : String} {read : Task → String} (filterable : filterables.get? field = some read)

include filterable

theorem one_le_count_of_distinct {value : Value}
    (seen : value.text ∈ (store.tasks.map read).eraseDups) :
    1 ≤ store.tasks.countP (selects [⟨some field, value⟩]) := by
  obtain ⟨task, member, same⟩ := List.mem_map.mp (List.mem_eraseDups.mp seen)
  apply List.countP_pos_iff.mpr
  refine ⟨task, member, ?_⟩
  rw [selects_single filterable, same, Text.equalIgnoringCase_iff]

theorem exists_distinct_selects {task : Task} (member : task ∈ store.tasks) :
    ∃ text ∈ (store.tasks.map read).eraseDups,
      selects [⟨some field, .literal text⟩] task = true := by
  refine ⟨read task, List.mem_eraseDups.mpr (List.mem_map_of_mem member), ?_⟩
  rw [selects_single filterable, Text.equalIgnoringCase_iff]
  rfl

end Agreement

/-- Lists, counts and distinct values that are asked for with the same arguments are of the same
tasks, and the summary counts them as a filter by each status does. -/
theorem reads_agree (store : TaskStore) :
    (∀ source batch call, Batch.parse source = .ok batch → batch.calls = [call] →
      (schema.execute source store).answer = .ok (.single (answer store call)))
    ∧ (∀ arguments fields,
      let list := answer store ⟨"list", Argument.unpaged arguments, fields⟩
      let number := store.tasks.countP (selects arguments)
      answer store ⟨"count", arguments, none⟩ = countOf number
        ∧ (list.isFailure = false →
          ∃ columns rows, list = .records columns rows ∧ rows.length = number))
    ∧ (∃ number : Status → Nat,
      (∀ arguments,
        answer store ⟨"summary", arguments, none⟩ = summaryOf store.tasks.length number)
      ∧ answer store ⟨"count", [], none⟩ = countOf store.tasks.length
      ∧ number .todo + number .inProgress + number .done = store.tasks.length
      ∧ ∀ status value, value.text = status.name →
        answer store ⟨"count", [⟨some "status", value⟩], none⟩ = countOf (number status))
    ∧ ∀ field read name, filterables.get? field = some read → name.text = field →
      (∀ arguments, ∃ values,
        answer store ⟨"distinct", ⟨none, name⟩ :: Argument.keyed arguments, none⟩ =
          .value (.ofStrings values)
        ∧ FirstSeen ((store.tasks.filter (selects arguments)).map read) values)
      ∧ ∃ values, answer store ⟨"distinct", [⟨none, name⟩], none⟩ = .value (.ofStrings values)
        ∧ (∀ value, value.text ∈ values → ∃ number, 1 ≤ number
          ∧ answer store ⟨"count", [⟨some field, value⟩], none⟩ = countOf number)
        ∧ ∀ task ∈ store.tasks, ∃ text ∈ values,
          selects [⟨some field, .literal text⟩] task = true := by
  refine ⟨?_, ?_, ?_, ?_⟩
  · exact fun source batch call parsed calls => execute_of_calls parsed calls store
  · exact fun arguments fields =>
      ⟨answer_count store arguments, answer_list store arguments fields⟩
  · refine ⟨_, answer_summary store, ?_, add_countP_status store.tasks, ?_⟩
    · rw [answer_count, selects_nil, List.countP_true]
    · intro status value named
      rw [answer_count, countP_status store named]
  · intro field read name filterable named
    constructor
    · intro arguments
      exact ⟨_, answer_distinct store arguments filterable named, firstSeen_eraseDups _⟩
    · have distinct : answer store ⟨"distinct", [⟨none, name⟩], none⟩ = _ :=
        answer_distinct store [] filterable named
      rw [selects_nil, List.filter_true] at distinct
      refine ⟨_, distinct, ?_, ?_⟩
      · exact fun value seen =>
          ⟨_, one_le_count_of_distinct store filterable seen, answer_count store _⟩
      · exact fun task member => exists_distinct_selects store filterable member

theorem reads_agree_sample :
    let store := TaskStore.withSampleTasks
    let arguments : List Argument := [⟨some "priority", .word "low"⟩,
      ⟨some "priority", .word "HIGH"⟩, ⟨some "sort_name", .word "desc"⟩, ⟨some "take", .word "1"⟩]
    (∃ columns rows,
      (schema.execute "list(priority=low, priority=HIGH, sort_name=desc)" store).answer =
        .ok (.single (.records columns rows))
      ∧ (schema.execute "count(priority=low, priority=HIGH, sort_name=desc, take=1)" store).answer =
        .ok (.single (countOf rows.length)))
    ∧ ∃ values,
      (schema.execute "distinct(assignee, priority=low, priority=HIGH, sort_name=desc, take=1)"
        store).answer = .ok (.single (.value (.ofStrings values)))
      ∧ FirstSeen ((store.tasks.filter (selects arguments)).map Task.assignee) values := by
  obtain ⟨list, listParsed, listCalls⟩ : ∃ batch,
      Batch.parse "list(priority=low, priority=HIGH, sort_name=desc)" = .ok batch ∧ batch.calls =
        [⟨"list", [⟨some "priority", .word "low"⟩, ⟨some "priority", .word "HIGH"⟩,
          ⟨some "sort_name", .word "desc"⟩], none⟩] :=
    Batch.parse_of_calls (by decide +kernel)
  obtain ⟨count, countParsed, countCalls⟩ : ∃ batch,
      Batch.parse "count(priority=low, priority=HIGH, sort_name=desc, take=1)" = .ok batch
        ∧ batch.calls = [⟨"count", [⟨some "priority", .word "low"⟩, ⟨some "priority", .word "HIGH"⟩,
          ⟨some "sort_name", .word "desc"⟩, ⟨some "take", .word "1"⟩], none⟩] :=
    Batch.parse_of_calls (by decide +kernel)
  obtain ⟨distinct, distinctParsed, distinctCalls⟩ : ∃ batch,
      Batch.parse "distinct(assignee, priority=low, priority=HIGH, sort_name=desc, take=1)" =
        .ok batch ∧ batch.calls =
          [⟨"distinct", [⟨none, .word "assignee"⟩, ⟨some "priority", .word "low"⟩,
            ⟨some "priority", .word "HIGH"⟩, ⟨some "sort_name", .word "desc"⟩,
            ⟨some "take", .word "1"⟩], none⟩] :=
    Batch.parse_of_calls (by decide +kernel)
  have works : (answer TaskStore.withSampleTasks ⟨"list", [⟨some "priority", .word "low"⟩,
      ⟨some "priority", .word "HIGH"⟩, ⟨some "sort_name", .word "desc"⟩], none⟩).isFailure =
      false := by decide +kernel
  intro store arguments
  obtain ⟨executes, counts, -, distincts⟩ := reads_agree store
  obtain ⟨counted, listed⟩ := counts arguments none
  obtain ⟨columns, rows, records, same⟩ := listed works
  obtain ⟨values, answered, firstSeen⟩ :=
    (distincts "assignee" Task.assignee (.word "assignee") rfl rfl).1 arguments
  refine ⟨⟨columns, rows, ?_, ?_⟩, values, ?_, firstSeen⟩
  · rw [← records]
    exact executes _ list _ listParsed listCalls
  · rw [same, ← counted]
    exact executes _ count _ countParsed countCalls
  · rw [← answered]
    exact executes _ distinct _ distinctParsed distinctCalls

end Task

end Inquiry
