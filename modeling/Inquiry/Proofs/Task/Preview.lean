import Inquiry.Proofs.Execution.Session
import Inquiry.Proofs.Task.Effect

set_option autoImplicit false

namespace Inquiry

namespace Task

def partsNamed (query : Query) (task : Task) : List (String × Json) :=
  [("title", task.title), ("status", task.status.name), ("assignee", task.assignee),
      ("priority", task.priority.name)].filterMap fun (key, text) =>
    (query.namedParam? key).map fun _ => (key, .string text)

inductive Foretells (query : Query) (before after : TaskStore) : Json → Prop where
  | create {task : Task} (name : query.operation.text = "create")
      (created : Created query before after task) :
      Foretells query before after (.object [("dry_run", .bool true),
        ("would_create", .object [("title", .string task.title),
          ("status", .string task.status.name), ("assignee", .string task.assignee),
          ("priority", .string task.priority.name)])])
  | update {old new : Task} (name : query.operation.text = "update")
      (updated : Updated query before after old new) :
      Foretells query before after (.object [("dry_run", .bool true), ("id", .string old.id),
        ("would_update", .object (partsNamed query new))])
  | delete {task : Task} (name : query.operation.text = "delete")
      (deleted : Deleted query before after task) :
      Foretells query before after (.object [("dry_run", .bool true),
        ("would_delete", .object [("id", .string task.id), ("title", .string task.title),
          ("status", .string task.status.name)])])

theorem Reads.isSome_map {α : Type} {parse? : String → Option α} {text? : Option String}
    {value? : Option α} (reads : Reads parse? text? value?) (name : α → String) :
    text?.isSome = (value?.map name).isSome := by
  have same := congrArg Option.isSome reads
  simpa using same

theorem entry_of_named {text? value? : Option String} (same : text?.isSome = value?.isSome)
    (key otherwise : String) :
    (value?.map fun value => (key, Json.string value)).toList =
      (text?.map fun _ => (key, Json.string (value?.getD otherwise))).toList := by
  cases text? <;> cases value? <;> simp_all

theorem filterMap_cons_eq_append {α β : Type} (change : α → Option β) (item : α)
    (rest : List α) :
    (item :: rest).filterMap change = (change item).toList ++ rest.filterMap change := by
  cases made : change item <;> simp [made]

-- An update names a part just when its changes hold a value for it.
theorem Plans.toJson_changes {query : Query} {store : TaskStore} {task : Task} {changes : Changes}
    (plans : Plans query store (.update task changes)) :
    changes.toJson = .object (partsNamed query (task.change changes)) := by
  cases plans with
  | @update _ status? priority? _ _ _ statusRead priorityRead =>
    have title := entry_of_named (rfl : (query.namedParam? "title").isSome = _) "title" task.title
    have status := entry_of_named (statusRead.isSome_map Status.name) "status" task.status.name
    have assignee := entry_of_named (rfl : (query.namedParam? "assignee").isSome = _) "assignee"
      task.assignee
    have priority := entry_of_named (priorityRead.isSome_map Priority.name) "priority"
      task.priority.name
    rw [Option.getD_map] at status priority
    simp only [Changes.toJson, title, status, assignee, priority, partsNamed,
      filterMap_cons_eq_append, change, List.filterMap_nil, List.append_nil, List.append_assoc]

theorem Plans.foretells {query : Query} {store : TaskStore} {plan : Plan}
    (plans : Plans query store plan) : Foretells query store (plan.apply store) plan.preview := by
  cases plan with
  | create proposal =>
    have created := plans.created
    cases plans with
    | create name titled status priority => exact .create name created
  | update task changes =>
    have updated := plans.updated
    have listed := plans.toJson_changes
    rw [Plan.preview, previewUpdate, listed]
    cases plans with
    | update name addressed found status priority => exact .update name updated
  | delete task =>
    have deleted := plans.deleted
    cases plans with
    | delete name addressed found => exact .delete name deleted

theorem runMutation_of_dry {options : MutationOptions} {query : Query}
    (dry : (query.asksDryRun || options.dryRun) = true) (store : TaskStore) :
    ((schema.runMutation options query).run store).state = store := by
  obtain ⟨confirmed, dryRun⟩ := options
  rcases runMutation_settles query store confirmed with
    ⟨failure, stopped⟩ | ⟨plan, selector, plans, -, ran⟩
  · obtain ⟨log, same⟩ := stopped dryRun
    rw [same]
  · rw [ran dryRun, if_pos dry]

/-- A dry run leaves the store as it is, be it asked for by the caller or by the query itself. It
fails just when the real run on the same store does, with the same failure, and else tells what the
real run does. -/
theorem dryRun_foretells_run :
    (∀ confirmed source store, (schema.mutate ⟨confirmed, true⟩ source store).state = store)
    ∧ (∀ options source batch, Batch.parse source = .ok batch → ∀ store index query,
      batch.queries[index]? = some query → query.asksDryRun = true →
      (schema.runBatch (.mutate options) (batch.take (index + 1)) store).state =
        (schema.runBatch (.mutate options) (batch.take index) store).state)
    ∧ ∀ confirmed source batch query, Batch.parse source = .ok batch →
      batch.queries = [query] → query.asksDryRun = false → ∀ store,
      let dry := schema.mutate ⟨confirmed, true⟩ source store
      let real := schema.mutate ⟨confirmed, false⟩ source store
      ∃ shown done, dry.answer = .ok (.single shown) ∧ real.answer = .ok (.single done)
        ∧ (∀ failure, shown = .failure failure ↔ done = .failure failure)
        ∧ (done.isFailure = false →
          ∃ preview, shown = .value preview ∧ Foretells query store real.state preview) := by
  refine ⟨?_, ?_, ?_⟩
  · intro confirmed source store
    rw [schema.mutate_state]
    refine schema.stateAfter_preserves (P := fun state => state = store) ?_ rfl
    intro step member state same
    rw [same]
    apply runMutation_of_dry
    rw [Registry.options_of_mem_stepsOf member, Bool.or_true]
  · intro options source batch parsed store index query located asks
    have reached := schema.stateBefore_succ (.mutate options) located store
    exact reached.trans (runMutation_of_dry (by rw [asks, Bool.true_or]) _)
  · intro confirmed source batch query parsed only silent store dry real
    obtain ⟨shown, -⟩ := schema.submit_of_single parsed only (.mutate ⟨confirmed, true⟩) store
    obtain ⟨done, reached⟩ := schema.submit_of_single parsed only (.mutate ⟨confirmed, false⟩)
      store
    simp only [Registry.submit, Registry.runQuery] at shown done reached
    refine ⟨_, _, shown, done, ?_⟩
    rcases runMutation_settles query store confirmed with
      ⟨failure, stopped⟩ | ⟨plan, selector, plans, -, ran⟩
    · obtain ⟨dryLog, dryRan⟩ := stopped true
      obtain ⟨realLog, realRan⟩ := stopped false
      rw [dryRan, realRan]
      exact ⟨fun _ => Iff.rfl, fun success => by cases success⟩
    · have dryRan := ran true
      have realRan := ran false
      simp only [silent, Bool.false_or, if_true, if_false, Bool.false_eq_true] at dryRan realRan
      rw [realRan] at reached
      rw [dryRan, realRan]
      refine ⟨?_, fun _ => ⟨plan.preview, rfl, ?_⟩⟩
      · have works := selector.isFailure_project (plan.output store)
        intro failure
        constructor
        next =>
          intro same
          cases same
        next =>
          intro same
          rw [show selector.project (plan.output store) = .failure failure from same] at works
          cases works
      · rw [show real.state = plan.apply store from reached]
        exact plans.foretells

theorem dryRun_foretells_run_sample :
    let store := TaskStore.withSampleTasks
    let deletion := "delete(task-1, dry_run=no, dry_run=yes)"
    let change := "update(task-2, title=x, dry_run=no)"
    (∃ batch query, Batch.parse deletion = .ok batch ∧ batch.queries[0]? = some query
      ∧ query.asksDryRun = true
      ∧ (schema.runBatch (.mutate ⟨true, false⟩) (batch.take 1) store).state =
        (schema.runBatch (.mutate ⟨true, false⟩) (batch.take 0) store).state)
    ∧ ∃ batch query preview, Batch.parse change = .ok batch ∧ batch.queries = [query]
      ∧ query.asksDryRun = false
      ∧ (schema.mutate ⟨false, true⟩ change store).answer = .ok (.single (.value preview))
      ∧ Foretells query store (schema.mutate ⟨false, false⟩ change store).state preview := by
  obtain ⟨first, firstParsed, firstCalls⟩ : ∃ batch,
      Batch.parse "delete(task-1, dry_run=no, dry_run=yes)" = .ok batch ∧ batch.calls =
        [⟨"delete", [⟨none, .word "task-1"⟩, ⟨some "dry_run", .word "no"⟩,
          ⟨some "dry_run", .word "yes"⟩], none⟩] :=
    Batch.parse_of_calls (by decide +kernel)
  obtain ⟨second, secondParsed, secondCalls⟩ : ∃ batch,
      Batch.parse "update(task-2, title=x, dry_run=no)" = .ok batch ∧ batch.calls =
        [⟨"update", [⟨none, .word "task-2"⟩, ⟨some "title", .word "x"⟩,
          ⟨some "dry_run", .word "no"⟩], none⟩] :=
    Batch.parse_of_calls (by decide +kernel)
  obtain ⟨deletion, located, deletionCall⟩ := Batch.query_of_calls firstCalls 0 rfl
  obtain ⟨change, only, changeCall⟩ := Batch.single_of_calls secondCalls
  have asks : deletion.asksDryRun = true := by
    rw [Query.asksDryRun, Query.namedParam?, deletion.namedParams_eq_named, deletionCall]
    decide
  have silent : change.asksDryRun = false := by
    rw [Query.asksDryRun, Query.namedParam?, change.namedParams_eq_named, changeCall]
    decide
  have works : ((schema.mutate ⟨false, false⟩ "update(task-2, title=x, dry_run=no)"
      TaskStore.withSampleTasks).answer.toOption.map fun outcome =>
        outcome.slots.map Slot.isFailure) = some [false] := by
    rw [schema.mutate_eq]
    decide +kernel
  intro store
  obtain ⟨-, kept, foretold⟩ := dryRun_foretells_run
  obtain ⟨shown, done, dryAnswer, realAnswer, -, told⟩ :=
    foretold false _ second change secondParsed only silent store
  rw [realAnswer] at works
  obtain ⟨preview, rfl, foretells⟩ := told (by simpa [Except.toOption, Outcome.slots] using works)
  exact ⟨⟨first, deletion, firstParsed, located, asks,
    kept ⟨true, false⟩ _ first firstParsed store 0 deletion located asks⟩,
    second, change, preview, secondParsed, only, silent, dryAnswer, foretells⟩

end Task

end Inquiry
