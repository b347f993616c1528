import Inquiry.Proofs.Execution.Session
import Inquiry.Proofs.Request.Parameters
import Inquiry.Proofs.Task.Plan
import Inquiry.Proofs.Text.Folding

set_option autoImplicit false

namespace Inquiry

namespace Request

variable {σ ι : Type} {request : Request σ ι} {parameters : List Parameter}

theorem code_of_requireArg {name : String} {failure : Failure}
    (failed : request.requireArg name = .error failure) : failure.code = .required := by
  unfold requireArg at failed
  split at failed <;> cases failed
  rfl

theorem code_of_requirePositional {what : String} {failure : Failure}
    (failed : request.requirePositional what = .error failure) : failure.code = .required := by
  unfold requirePositional at failed
  split at failed <;> cases failed
  rfl

theorem violation?_eq_none_iff {α : Type} {variants : List α} {name : α → String}
    (plain : ∀ variant ∈ variants, Text.IsPlain (name variant))
    {parameter : Parameter} (allowed : parameter.allowed = variants.map name)
    (nonempty : variants ≠ []) {text : String} (given : request.arg? parameter.name = some text) :
    request.violation? parameter = none ↔ ∃ variant,
      variants.find? (fun variant => Text.equalIgnoringAsciiCase (name variant) text) =
        some variant := by
  have some : parameter.allowed.isEmpty = false := by simpa [allowed] using nonempty
  have chosen : (parameter.allowed.any fun choice => Text.equalIgnoringCase choice text) =
      variants.any fun variant => Text.equalIgnoringAsciiCase (name variant) text := by
    rw [allowed, List.any_map, Bool.eq_iff_iff, List.any_eq_true, List.any_eq_true]
    refine exists_congr fun variant => and_congr_right fun member => ?_
    rw [← Text.equalIgnoringCase_eq_ascii (plain variant member)]
    rfl
  rw [← Option.isSome_iff_exists, List.find?_isSome, ← List.any_eq_true, ← chosen, violation?,
    given]
  simp [some]

end Request

def Registry.Declares {σ ι : Type} (schema : Schema σ ι) (name : String) (parameter : Parameter) :
    Prop :=
  ∃ mutation metadata, schema.mutations.get? name = some mutation
    ∧ mutation.metadata = some metadata ∧ parameter ∈ metadata.parameters

theorem TaskStore.code_of_taskAt {store : TaskStore} {id : String} {failure : Failure}
    (failed : store.taskAt id = .error failure) : failure.code = .notFound := by
  unfold taskAt at failed
  split at failed <;> cases failed
  rfl

namespace Task

def unreadable (key text : String) : Failure :=
  (Failure.of .invalidValue (unknownVariant key text)).withText "param" key

structure Readable (request : TaskRequest) : Prop where
  status : ∃ status?, variantArg request "status" Status.parse? = .ok status?
  priority : ∃ priority?, variantArg request "priority" Priority.parse? = .ok priority?

theorem variantArg_cases {α : Type} (request : TaskRequest) (key : String)
    (parse? : String → Option α) :
    (∃ text, request.arg? key = some text ∧ parse? text = none
      ∧ variantArg request key parse? = .error (unreadable key text))
    ∨ ∃ value?, variantArg request key parse? = .ok value? := by
  unfold variantArg
  split
  next => exact .inr ⟨_, rfl⟩
  next text given =>
    split
    next => exact .inr ⟨_, rfl⟩
    next unparsed => exact .inl ⟨text, given, unparsed, rfl⟩

section Codes

variable {request : TaskRequest} {store : TaskStore} {failure : Failure}

theorem code_of_planCreate (readable : Readable request)
    (failed : planCreate request store = .error failure) : failure.code = .required := by
  obtain ⟨⟨status?, status⟩, priority?, priority⟩ := readable
  rcases error_of_bind_eq_error failed with failed | ⟨proposal, -, done⟩
  · rcases error_of_bind_eq_error failed with untitled | ⟨title, -, failed⟩
    · exact Request.code_of_requireArg untitled
    · rw [status] at failed
      rcases error_of_bind_eq_error failed with none | ⟨_, -, failed⟩
      · cases none
      · rw [priority] at failed
        cases failed
  · cases done

theorem code_of_planUpdate (readable : Readable request)
    (failed : planUpdate request store = .error failure) :
    failure.code = .required ∨ failure.code = .notFound := by
  obtain ⟨⟨status?, status⟩, priority?, priority⟩ := readable
  rcases error_of_bind_eq_error failed with unaddressed | ⟨id, -, failed⟩
  · exact .inl (Request.code_of_requirePositional unaddressed)
  · have read : changesOf request =
        .ok ⟨request.arg? "title", status?, request.arg? "assignee", priority?⟩ := by
      rw [changesOf, status, priority]
      rfl
    rw [read] at failed
    rcases error_of_bind_eq_error failed with none | ⟨_, -, failed⟩
    · cases none
    · rcases error_of_bind_eq_error failed with missing | ⟨task, -, done⟩
      · exact .inr (TaskStore.code_of_taskAt missing)
      · cases done

theorem code_of_planDelete (failed : planDelete request store = .error failure) :
    failure.code = .required ∨ failure.code = .notFound := by
  rcases error_of_bind_eq_error failed with unaddressed | ⟨id, -, failed⟩
  · exact .inl (Request.code_of_requirePositional unaddressed)
  · rcases error_of_bind_eq_error failed with missing | ⟨task, -, done⟩
    · exact .inr (TaskStore.code_of_taskAt missing)
    · cases done

end Codes

structure ChecksAsRead {α : Type} (operation key : String) (parse? : String → Option α) : Prop where
  declared : ∃ parameter, schema.Declares operation parameter ∧ parameter.name = key
  agrees : ∀ parameter, schema.Declares operation parameter → parameter.name = key →
    ∀ (request : TaskRequest) text, request.arg? key = some text →
      (request.violation? parameter = none ↔ ∃ variant, parse? text = some variant)

theorem status_plain : ∀ status ∈ Status.all, Text.IsPlain status.name := by
  decide +kernel

theorem priority_plain : ∀ priority ∈ Priority.all, Text.IsPlain priority.name := by
  decide +kernel

section Declared

variable {operation : String} (named : operation = "create" ∨ operation = "update")

include named

theorem exists_declared {key : String} (variant : key = "status" ∨ key = "priority") :
    ∃ parameter, schema.Declares operation parameter ∧ parameter.name = key := by
  rcases named with rfl | rfl <;> rcases variant with rfl | rfl
  · exact ⟨_, ⟨_, _, rfl, rfl, .tail _ (.head _)⟩, rfl⟩
  · exact ⟨_, ⟨_, _, rfl, rfl, .tail _ (.tail _ (.tail _ (.head _)))⟩, rfl⟩
  · exact ⟨_, ⟨_, _, rfl, rfl, .tail _ (.tail _ (.head _))⟩, rfl⟩
  · exact ⟨_, ⟨_, _, rfl, rfl, .tail _ (.tail _ (.tail _ (.tail _ (.head _))))⟩, rfl⟩

theorem allowed_of_declared {parameter : Parameter}
    (declared : schema.Declares operation parameter) :
    (parameter.name = "status" → parameter.allowed = Status.all.map Status.name)
      ∧ (parameter.name = "priority" → parameter.allowed = Priority.all.map Priority.name) := by
  obtain ⟨mutation, metadata, known, described, member⟩ := declared
  revert parameter
  rcases named with rfl | rfl
  all_goals
    cases known
    cases described
    decide

theorem status_checksAsRead : ChecksAsRead operation "status" Status.parse? where
  declared := exists_declared named (.inl rfl)
  agrees parameter declared name request text given := by
    rw [← name] at given
    have allowed := (allowed_of_declared named declared).1 name
    exact Request.violation?_eq_none_iff status_plain allowed (by decide) given

theorem priority_checksAsRead : ChecksAsRead operation "priority" Priority.parse? where
  declared := exists_declared named (.inr rfl)
  agrees parameter declared name request text given := by
    rw [← name] at given
    have allowed := (allowed_of_declared named declared).2 name
    exact Request.violation?_eq_none_iff priority_plain allowed (by decide) given

end Declared

theorem ChecksAsRead.reads {α : Type} {operation key : String} {parse? : String → Option α}
    (checks : ChecksAsRead operation key parse?) {request : TaskRequest}
    (passed : ∀ parameter, schema.Declares operation parameter →
      request.violation? parameter = none) :
    ∃ value?, variantArg request key parse? = .ok value? := by
  rcases variantArg_cases request key parse? with ⟨text, given, unparsed, -⟩ | read
  · obtain ⟨parameter, declared, name⟩ := checks.declared
    obtain ⟨variant, parsed⟩ :=
      (checks.agrees parameter declared name request text given).mp (passed parameter declared)
    rw [unparsed] at parsed
    cases parsed
  · exact read

section Runs

variable {options : MutationOptions} {query : Query} {mutation : Mutation TaskHandler}

theorem readable_of_admits (admits : schema.Admits options query mutation)
    (named : query.operation.text = "create" ∨ query.operation.text = "update")
    (selector : Selector Task) :
    Readable (.ofMutation schema.catalog query selector options.dryRun) := by
  have passed : ∀ parameter, schema.Declares query.operation.text parameter →
      (Request.ofMutation schema.catalog query selector options.dryRun).violation? parameter =
        none := by
    rintro parameter ⟨_, metadata, known, described, member⟩
    rw [admits.known] at known
    cases known
    exact Request.validate_eq_ok_iff.mp (admits.arguments metadata described selector) _ member
  exact ⟨(status_checksAsRead named).reads passed, (priority_checksAsRead named).reads passed⟩

theorem exists_violations_of_runMutation {store : TaskStore} {failure : Failure}
    (failed : ((schema.runMutation options query).run store).answer = .error failure)
    (invalid : failure.code = .invalidValue) :
    ∃ first rest, failure = Request.violationFailure first rest := by
  rcases schema.admits_or_refuses options query with ⟨mutation, admits⟩ | ⟨code, refusal, refuses⟩
  · obtain ⟨selector, resolved⟩ := Registry.selector_of_known schema_coherent admits.fields
    have readable := readable_of_admits admits
    have other : failure.code = .required ∨ failure.code = .notFound := by
      rw [admits.run resolved] at failed
      rcases handler_of_known admits.known with ⟨name, handler⟩ | ⟨name, handler⟩ | ⟨-, handler⟩
      · rw [handler] at failed
        exact .inl (code_of_planCreate (readable (.inl name) selector)
          (unplanned_of_error createTask_carries failed))
      · rw [handler] at failed
        exact code_of_planUpdate (readable (.inr name) selector)
          (unplanned_of_error updateTask_carries failed)
      · rw [handler] at failed
        exact code_of_planDelete (unplanned_of_error deleteTask_carries failed)
    rw [invalid] at other
    rcases other with other | other <;> cases other
  · obtain ⟨log, stopped⟩ := refuses.run schema_coherent store
    rw [stopped] at failed
    cases failed
    cases refuses with
    | arguments _ _ _ _ unfit _ _ => exact Request.exists_violations_of_validate (unfit ⟨[]⟩)
    | unknown => cases invalid
    | unconfirmed => cases invalid
    | field => cases invalid

theorem error_of_slot_eq_failure {store : TaskStore} {failure : Failure}
    (failed : .ofResult ((schema.runMutation options query).run store).answer =
      Slot.failure failure) :
    ((schema.runMutation options query).run store).answer = .error failure := by
  obtain ⟨other, log, stopped⟩ := runMutation_of_failed query store (congrArg Slot.isFailure failed)
  rw [stopped] at failed ⊢
  cases failed
  rfl

end Runs

theorem violationFailure_ne_unreadable (first : Violation) (rest : List Violation)
    (key text : String) : Request.violationFailure first rest ≠ unreadable key text := by
  intro same
  have keys : ["errors"] = ["param"] := congrArg (List.map Prod.fst) (congrArg Failure.details same)
  exact absurd keys (by decide)

theorem equalIgnoringCase_of_find? {α : Type} {variants : List α} {name : α → String}
    (plain : ∀ variant ∈ variants, Text.IsPlain (name variant))
    {text : String} {variant : α}
    (found : variants.find? (fun variant => Text.equalIgnoringAsciiCase (name variant) text) =
      some variant) :
    Text.equalIgnoringCase (name variant) text = true := by
  have same := List.find?_some found
  rwa [Text.equalIgnoringCase_eq_ascii (plain variant (List.mem_of_find?_eq_some found))]

/-- The engine's check takes a status or a priority just when the handler can read it, so no
mutation is ever answered that the handler could not. -/
theorem variants_checked_as_read :
    (∀ operation, operation = "create" ∨ operation = "update" →
      ChecksAsRead operation "status" Status.parse?
        ∧ ChecksAsRead operation "priority" Priority.parse?)
    ∧ (∀ options source store outcome failure,
      (schema.mutate options source store).answer = .ok outcome →
      .failure failure ∈ outcome.slots → failure.code = .invalidValue →
      (∃ first rest, failure = Request.violationFailure first rest)
        ∧ ∀ key text, failure ≠ unreadable key text)
    ∧ (∀ text status, Status.parse? text = some status →
      Text.equalIgnoringCase status.name text = true)
    ∧ ∀ text priority, Priority.parse? text = some priority →
      Text.equalIgnoringCase priority.name text = true := by
  refine ⟨?_, ?_, ?_, ?_⟩
  · exact fun operation named => ⟨status_checksAsRead named, priority_checksAsRead named⟩
  · intro options source store outcome failure answered member invalid
    obtain ⟨query, before, filled⟩ :=
      schema.exists_run_of_mem_slots (.mutate options) answered member
    obtain ⟨first, rest, reported⟩ :=
      exists_violations_of_runMutation (error_of_slot_eq_failure filled.symm) invalid
    refine ⟨⟨first, rest, reported⟩, fun key text same => ?_⟩
    exact violationFailure_ne_unreadable first rest key text (reported.symm.trans same)
  · exact fun text status found => equalIgnoringCase_of_find? status_plain found
  · exact fun text priority found => equalIgnoringCase_of_find? priority_plain found

theorem variants_checked_as_read_sample :
    let request := Request.ofArguments schema.catalog "create" [] [("status", "In-Progress")] ⟨[]⟩
    (∃ parameter, schema.Declares "create" parameter ∧ parameter.name = "status"
      ∧ request.violation? parameter = none)
    ∧ Text.equalIgnoringCase Status.inProgress.name "In-Progress" = true
    ∧ ∃ outcome failure first rest,
      (schema.mutate ⟨false, false⟩ "update(task-1, priority=\"\u212a\")"
        TaskStore.withSampleTasks).answer = .ok outcome
      ∧ .failure failure ∈ outcome.slots ∧ failure = Request.violationFailure first rest := by
  intro request
  obtain ⟨checks, reported, status, -⟩ := variants_checked_as_read
  have parsed : Status.parse? "In-Progress" = some .inProgress := by decide
  refine ⟨?_, status _ _ parsed, ?_⟩
  · obtain ⟨statuses, -⟩ := checks "create" (.inl rfl)
    obtain ⟨parameter, declared, name⟩ := statuses.declared
    have given : request.arg? "status" = some "In-Progress" := rfl
    exact ⟨parameter, declared, name,
      (statuses.agrees parameter declared name request _ given).mpr ⟨_, parsed⟩⟩
  · have codes : (schema.mutate ⟨false, false⟩ "update(task-1, priority=\"\u212a\")"
        TaskStore.withSampleTasks).answer.toOption.map (fun outcome =>
          outcome.slots.map fun slot => slot.failure?.map Failure.code) =
        some [some .invalidValue] := by
      rw [schema.mutate_eq]
      decide +kernel
    cases ran : (schema.mutate ⟨false, false⟩ "update(task-1, priority=\"\u212a\")"
        TaskStore.withSampleTasks).answer with
    | error error =>
      rw [ran] at codes
      cases codes
    | ok outcome =>
      rw [ran] at codes
      obtain ⟨slot, only, code⟩ := List.map_eq_singleton_iff.mp (Option.some.inj codes)
      obtain ⟨failure, isFailure, invalid⟩ := Option.map_eq_some_iff.mp code
      cases slot with
      | failure reason =>
        cases isFailure
        have member : .failure failure ∈ outcome.slots := by simp [only]
        obtain ⟨⟨first, rest, same⟩, -⟩ := reported _ _ _ _ _ ran member invalid
        exact ⟨outcome, failure, first, rest, rfl, member, same⟩
      | _ => cases isFailure

end Task

end Inquiry
