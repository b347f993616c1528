import Inquiry.Proofs.Query.Writing
import Inquiry.Proofs.Task.Effect
import Inquiry.Proofs.Task.Numbering

set_option autoImplicit false

namespace Inquiry

namespace TaskStore

theorem isName_idOf (number : Nat) : Token.IsName (idOf number) := by
  have letters : "ask-".toList.all Token.continuesIdentifier = true := by decide
  refine ⟨'t', "ask-".toList ++ Nat.toDigits 10 number, toList_idOf number, by decide, ?_⟩
  intro char member
  rcases List.mem_append.mp member with inLetters | inDigits
  · exact (Token.continuesIdentifier_iff char).mp (List.all_eq_true.mp letters char inLetters)
  · have digit := (Token.isDigit_iff char).mp
      (Nat.isDigit_of_mem_toDigits (by decide) (by decide) inDigits)
    exact .inl (.inr (.inr (.inl digit)))

theorem Numbered.isName {store : TaskStore} (numbered : store.Numbered) {id : String}
    (member : id ∈ store.ids) : Token.IsName id := by
  obtain ⟨number, rfl, -⟩ := numbered.exists_of_mem member
  exact isName_idOf number

theorem find?_of_split {store : TaskStore} {first rest : List Task} {task : Task}
    (whole : store.tasks = first ++ task :: rest) (earlier : ∀ other ∈ first, other.id ≠ task.id) :
    store.find? task.id = some task := by
  rw [find?, whole, List.find?_eq_some_iff_append]
  exact ⟨by simp, first, rest, rfl, by simpa using earlier⟩

end TaskStore

namespace Task

theorem runRead_get {query : Query} {value : Value} {fields : Option (List String)}
    (same : query.call = ⟨"get", [⟨none, value⟩], fields⟩) {store : TaskStore} {task : Task}
    (found : store.find? value.text = some task) {selector : Selector Task}
    (resolved : schema.selector (fields.getD []) = .ok selector) :
    (schema.runRead query).run store = ⟨.ok (selector.project (.item task)), store, []⟩ := by
  have name : query.operation.text = "get" := congrArg Call.operation same
  have asked : query.requestedFields = fields.getD [] := by
    rw [query.requestedFields_eq_requested, same]
    rfl
  have positional : query.positionalParams = [value.text] := by
    rw [query.positionalParams_eq_positional, same]
    rfl
  obtain ⟨metadata, known⟩ : ∃ metadata, schema.findOperation query.operation.text =
      .ok ⟨getTask, metadata⟩ := by
    rw [name]
    exact ⟨_, rfl⟩
  let request := Request.ofRead schema.catalog query selector
  have addressed : request.requirePositional "task ID" = .ok value.text := by
    have first : request.positional? = some value.text := congrArg List.head? positional
    rw [Request.requirePositional, first]
  have loaded : request.items.run store = ⟨.ok store.tasks, store, []⟩ := rfl
  have ran : (getTask request).run store = ⟨.ok (.item task), store, []⟩ := by
    rw [TaskStore.find?] at found
    rw [getTask, Action.run_lift_bind_of_ok _ store addressed, Action.run_bind_of_ok _ loaded,
      found]
    rfl
  rw [← asked] at resolved
  rw [Registry.runRead, Action.run_lift_bind_of_ok _ store known,
    Action.run_lift_bind_of_ok _ store resolved]
  exact Registry.runHandler_of_ok ran

structure ReadsBack (query : Query) (after : TaskStore) (task : Task) (slot : Slot) : Prop where
  record : ∃ selector, schema.selector query.requestedFields = .ok selector
    ∧ slot = .record selector.fields (selector.row task)
  read : ∀ source batch value, Batch.parse source = .ok batch →
    batch.calls = [⟨"get", [⟨none, value⟩], query.call.fields⟩] → value.text = task.id →
    (schema.execute source after).answer = .ok (.single slot)
  written :
    let call : Call := ⟨"get", [⟨none, .word task.id⟩], query.call.fields⟩
    ∃ batch, Batch.parse (writeCalls [call]) = .ok batch ∧ batch.calls = [call]

theorem wellFormed_get {id : String} (name : Token.IsName id) {query : Query}
    (wellFormed : query.call.WellFormed Token.IsName) :
    Call.WellFormed Token.IsName ⟨"get", [⟨none, .word id⟩], query.call.fields⟩ := by
  have get : Token.IsName "get" := by decide
  refine ⟨get, ?_, wellFormed.nonempty, wellFormed.fields⟩
  intro argument member
  rw [List.mem_singleton.mp member]
  constructor
  next =>
    intro key given
    cases given
  next =>
    intro text given
    cases given
    exact name

theorem readsBack {query : Query} (wellFormed : query.call.WellFormed Token.IsName)
    {selector : Selector Task} (resolved : schema.selector query.requestedFields = .ok selector)
    {after : TaskStore} {task : Task} (found : after.find? task.id = some task)
    (name : Token.IsName task.id) :
    ReadsBack query after task (selector.project (.item task)) := by
  refine ⟨⟨selector, resolved, rfl⟩, ?_, ?_⟩
  · intro source batch value parsed calls same
    obtain ⟨read, only, sameCall⟩ := Batch.single_of_calls calls
    have answered := (schema.submit_of_single parsed only .read after).1
    rw [← same] at found
    rw [query.requestedFields_eq_requested] at resolved
    simp only [Registry.submit, Registry.runQuery, runRead_get sameCall found resolved] at answered
    exact answered
  · intro call
    have callWellFormed : call.WellFormed Token.IsName := wellFormed_get name wellFormed
    exact Batch.parse_writeCalls (List.cons_ne_nil call []) (by simpa using callWellFormed)

theorem find?_of_created {query : Query} {before after : TaskStore} {task : Task}
    (created : Created query before after task) (fresh : task.id ∉ before.ids) :
    after.find? task.id = some task := by
  apply TaskStore.find?_of_split created.tasks
  intro other member same
  exact fresh (same ▸ List.mem_map_of_mem member)

theorem find?_of_updated {query : Query} {before after : TaskStore} {old new : Task}
    (updated : Updated query before after old new) : after.find? new.id = some new := by
  obtain ⟨first, rest, -, whole, earlier⟩ := updated.tasks
  apply TaskStore.find?_of_split whole
  rw [updated.id]
  exact earlier

inductive Performs (query : Query) (before after : TaskStore) (slot : Slot) : Prop where
  | create {task : Task} (name : query.operation.text = "create")
      (created : Created query before after task) (fresh : task.id ∉ before.ids)
      (read : ReadsBack query after task slot)
  | update {old new : Task} (name : query.operation.text = "update")
      (updated : Updated query before after old new) (read : ReadsBack query after new slot)
  | delete {task : Task} (name : query.operation.text = "delete")
      (deleted : Deleted query before after task)

theorem Plans.performs {query : Query} {before : TaskStore} {plan : Plan}
    (plans : Plans query before plan) (numbered : before.Numbered)
    (wellFormed : query.call.WellFormed Token.IsName) {selector : Selector Task}
    (resolved : schema.selector query.requestedFields = .ok selector) :
    Performs query before (plan.apply before) (selector.project (plan.output before)) := by
  cases plan with
  | create proposal =>
    have created := plans.created
    have fresh : (before.taskOf proposal).id ∉ before.ids := numbered.idOf_nextId_not_mem
    have read := readsBack wellFormed resolved (find?_of_created created fresh)
      (TaskStore.isName_idOf before.nextId)
    cases plans with
    | create name => exact .create name created fresh read
  | update task changes =>
    have updated := plans.updated
    cases plans with
    | update name _ found =>
      have named : Token.IsName task.id :=
        numbered.isName (List.mem_map_of_mem (List.mem_of_find?_eq_some found))
      exact .update name updated
        (readsBack wellFormed resolved (find?_of_updated updated) named)
  | delete task =>
    have deleted := plans.deleted
    cases plans with
    | delete name => exact .delete name deleted

theorem runMutation_performs {query : Query} {before : TaskStore} (numbered : before.Numbered)
    (wellFormed : query.call.WellFormed Token.IsName) {options : MutationOptions}
    (real : (query.asksDryRun || options.dryRun) = false)
    (success : (Slot.ofResult
      ((schema.runMutation options query).run before).answer).isFailure = false) :
    let ran := (schema.runMutation options query).run before
    Performs query before ran.state (.ofResult ran.answer) := by
  intro ran
  rcases runMutation_settles query before options.confirmed with
    ⟨failure, stopped⟩ | ⟨plan, selector, plans, resolved, settled⟩
  · obtain ⟨log, same⟩ := stopped options.dryRun
    rw [same] at success
    cases success
  · have same : ran = _ := settled options.dryRun
    rw [if_neg (by simpa using real)] at same
    rw [same]
    exact plans.performs numbered wellFormed resolved

theorem mutateAll_take_numbered (submissions : List (MutationOptions × String))
    (options : MutationOptions) (batch : Batch) (index : Nat) :
    (schema.runBatch (.mutate options) (batch.take index)
      (schema.mutateAll submissions TaskStore.withSampleTasks).state).state.Numbered := by
  rw [(schema.runBatch_run (.mutate options) (batch.take index) _).2, schema.fillSlots_state,
    schema.mutateAll_state]
  exact stateAfter_numbered _ (stateAfter_numbered _ TaskStore.withSampleTasks_numbered)

/-- In every store that the sample tasks can come to, a mutation that succeeds for real does just
what it is for, and a read gives back the task that it answered. -/
theorem mutation_performs (submissions : List (MutationOptions × String)) {source : String}
    {batch : Batch} (parsed : Batch.parse source = .ok batch) {options : MutationOptions}
    {index : Nat} {query : Query} (located : batch.queries[index]? = some query)
    (real : (query.asksDryRun || options.dryRun) = false) {slot : Slot}
    (answered : schema.slotAt options source
      (schema.mutateAll submissions TaskStore.withSampleTasks).state index = some slot)
    (success : slot.isFailure = false) :
    let store := (schema.mutateAll submissions TaskStore.withSampleTasks).state
    let before := (schema.runBatch (.mutate options) (batch.take index) store).state
    let after := (schema.runBatch (.mutate options) (batch.take (index + 1)) store).state
    before.ids.Nodup ∧ Performs query before after slot := by
  intro store before after
  have numbered : before.Numbered := mutateAll_take_numbered submissions options batch index
  have wellFormed : query.call.WellFormed Token.IsName :=
    Batch.calls_wellFormed parsed query.call
      (List.mem_map_of_mem (List.mem_of_getElem? located))
  obtain ⟨rfl, reached⟩ := schema.run_of_slotAt parsed located answered
  rw [show after = _ from reached]
  exact ⟨numbered.nodup, runMutation_performs numbered wellFormed real success⟩

theorem mutation_performs_sample :
    let submissions : List (MutationOptions × String) := [(⟨true, false⟩, "delete(task-8)")]
    let options : MutationOptions := ⟨false, false⟩
    let source := "create(title=x); update(task-9, title=y, title=z, dry_run=no) \x7b full \x7d"
    let store := (schema.mutateAll submissions TaskStore.withSampleTasks).state
    ∃ batch query slot, Batch.parse source = .ok batch ∧ batch.queries[1]? = some query
      ∧ (query.asksDryRun || options.dryRun) = false
      ∧ schema.slotAt options source store 1 = some slot ∧ slot.isFailure = false
      ∧ Performs query (schema.runBatch (.mutate options) (batch.take 1) store).state
        (schema.runBatch (.mutate options) (batch.take 2) store).state slot := by
  obtain ⟨batch, parsed, calls⟩ : ∃ batch,
      Batch.parse "create(title=x); update(task-9, title=y, title=z, dry_run=no) \x7b full \x7d" =
        .ok batch ∧ batch.calls =
          [⟨"create", [⟨some "title", .word "x"⟩], none⟩,
            ⟨"update", [⟨none, .word "task-9"⟩, ⟨some "title", .word "y"⟩,
              ⟨some "title", .word "z"⟩, ⟨some "dry_run", .word "no"⟩], some ["full"]⟩] :=
    Batch.parse_of_calls (by decide +kernel)
  obtain ⟨query, located, sameCall⟩ := Batch.query_of_calls calls 1 rfl
  have silent : query.asksDryRun = false := by
    rw [Query.asksDryRun, Query.namedParam?, query.namedParams_eq_named, sameCall]
    decide
  have second : (schema.slotAt ⟨false, false⟩
      "create(title=x); update(task-9, title=y, title=z, dry_run=no) \x7b full \x7d"
      (schema.mutateAll [(⟨true, false⟩, "delete(task-8)")] TaskStore.withSampleTasks).state 1).map
        Slot.isFailure = some false := by
    rw [Registry.slotAt, schema.mutate_eq, (schema.mutateAll_cons _ _ _ _).2, schema.mutate_eq]
    decide +kernel
  obtain ⟨slot, answered, success⟩ := Option.map_eq_some_iff.mp second
  intro submissions options source store
  have real : (query.asksDryRun || options.dryRun) = false := by
    rw [silent]
    rfl
  exact ⟨batch, query, slot, parsed, located, real, answered, success,
    (mutation_performs submissions parsed located real answered success).2⟩

end Task

end Inquiry
