import Inquiry.CommandLine.Command
import Inquiry.Proofs.Execution.Dismissal
import Inquiry.Proofs.Execution.DryRun
import Inquiry.Proofs.Execution.Session
import Inquiry.Proofs.Outcome.Ending
import Inquiry.Proofs.Registry.Columns

set_option autoImplicit false

namespace Inquiry

open Text

namespace CommandLine

theorem dropNewlines_concat_break (text : List Char) :
    dropNewlines (text ++ ['\n']) = dropNewlines text := by
  induction text with
  | nil => rfl
  | cons char rest ih => simp only [List.cons_append, dropNewlines, ih]

theorem dropNewlines_of_endsUnbroken {text : List Char} (ends : EndsUnbroken text) :
    dropNewlines text = text := by
  obtain ⟨front, last, rfl, plain⟩ := ends
  induction front with
  | nil => simp [dropNewlines, plain]
  | cons char rest ih => simp [dropNewlines, ih]

theorem withoutFinalNewlines_of_endsUnbroken {text : String} (ends : EndsUnbroken text.toList) :
    withoutFinalNewlines text = text := by
  rw [withoutFinalNewlines, dropNewlines_of_endsUnbroken ends, String.ofList_toList]

theorem exists_of_endsInOneBreak {text : String} (ends : EndsInOneBreak text.toList) :
    text = withoutFinalNewlines text ++ "\n"
      ∧ ∀ front, withoutFinalNewlines text ≠ front ++ "\n" := by
  obtain ⟨shown, unbroken, written⟩ := ends
  have kept : (withoutFinalNewlines text).toList = shown := by
    rw [withoutFinalNewlines, written, dropNewlines_concat_break,
      dropNewlines_of_endsUnbroken unbroken, String.toList_ofList]
  constructor
  · rw [← String.toList_inj, String.toList_append, kept, written]
    rfl
  · intro front same
    rw [same, String.toList_append] at kept
    exact not_endsUnbroken_append_break front.toList (kept ▸ unbroken)

end CommandLine

namespace Registry

variable {σ ι : Type} {schema : Schema σ ι}

-- The slot shows what a handler answered, under the columns that some request stands for.
def Projects (schema : Schema σ ι) (slot : Slot) : Prop :=
  ∃ requested selector output, schema.selector requested = .ok selector
    ∧ slot = selector.project output

theorem runHandler_projects {requested : List String} (handler : Handler σ ι)
    (request : Request σ ι) (resolved : schema.selector requested = .ok request.selector)
    (state : σ) :
    (∃ failure, ((runHandler handler request).run state).answer = .error failure)
      ∨ ∃ slot, ((runHandler handler request).run state).answer = .ok slot
        ∧ schema.Projects slot := by
  rcases ran : (handler request).run state with ⟨failure | output, after, log⟩
  · exact .inl ⟨failure, congrArg Ran.answer (runHandler_of_error ran)⟩
  · exact .inr ⟨_, congrArg Ran.answer (runHandler_of_ok ran), requested, _, output, resolved, rfl⟩

theorem runQuery_projects (schema : Schema σ ι) (purpose : Purpose) (query : Query) (state : σ) :
    (∃ failure, ((schema.runQuery purpose query).run state).answer = .error failure)
      ∨ ∃ slot, ((schema.runQuery purpose query).run state).answer = .ok slot
        ∧ schema.Projects slot := by
  cases purpose with
  | read =>
    cases known : schema.operations.get? query.operation.text with
    | none => exact .inl ⟨_, congrArg Ran.answer ((Misses.operation known).run state)⟩
    | some operation =>
      cases resolved : schema.selector query.requestedFields with
      | error failure =>
        exact .inl ⟨failure, congrArg Ran.answer ((Misses.fields known resolved).run state)⟩
      | ok selector =>
        have reached : (schema.runRead query).run state =
            (runHandler operation.handler (.ofRead schema.catalog query selector)).run state :=
          (runRead_of_known known state).trans (Action.run_lift_bind_of_ok _ state resolved)
        rw [runQuery, reached]
        exact runHandler_projects _ _ resolved state
  | mutate options =>
    rcases schema.runMutation_cases query options.confirmed state with
      ⟨failure, stopped⟩ | ⟨mutation, selector, -, resolved, reached⟩
    · obtain ⟨log, ran⟩ := stopped options.dryRun
      exact .inl ⟨failure, congrArg Ran.answer ran⟩
    · let request := Request.ofMutation schema.catalog query selector options.dryRun
      have same : request.selector = selector := Request.ofMutation_selector ..
      rw [runQuery, reached options.dryRun]
      exact runHandler_projects _ request (same ▸ resolved) state

theorem hasFields_of_projects (wellFormed : schema.WellFormed)
    (defaults : schema.defaultFields ≠ []) {slot : Slot} (projects : schema.Projects slot) :
    slot.HasFields := by
  obtain ⟨requested, selector, output, resolved, rfl⟩ := projects
  cases output with
  | item item =>
    have columns := wellFormed.fields_ne_nil defaults resolved
    have long := selector.length_row item
    rw [Selector.project, Slot.HasFields, Ne, List.zip_eq_nil_iff]
    rintro (vacant | vacant)
    · exact columns vacant
    · rw [vacant] at long
      exact columns (List.eq_nil_of_length_eq_zero long.symm)
  | items _ | value _ | metadata _ => trivial

theorem hasFields_of_mem_slots (wellFormed : schema.WellFormed)
    (defaults : schema.defaultFields ≠ []) {purpose : Purpose} {source : String} {state : σ}
    {outcome : Outcome} (answered : (schema.submit purpose source state).answer = .ok outcome) :
    ∀ slot ∈ outcome.slots, slot.HasFields := by
  intro slot member
  obtain ⟨query, before, rfl⟩ := schema.exists_run_of_mem_slots purpose answered member
  rcases schema.runQuery_projects purpose query before with ⟨failure, ran⟩ | ⟨slot, ran, projects⟩
  · rw [ran]
    trivial
  · rw [ran]
    exact hasFields_of_projects wellFormed defaults projects

end Registry

theorem Outcome.hasFailures_eq_false_iff {outcome : Outcome} :
    outcome.hasFailures = false ↔ ∀ failure, Slot.failure failure ∉ outcome.slots := by
  rw [hasFailures, List.any_eq_false]
  constructor
  · intro succeeds failure member
    exact succeeds _ member rfl
  · intro absent slot member fails
    cases slot with
    | failure failure => exact absent failure member
    | record _ _ | records _ _ | value _ | metadata _ => cases fails

namespace CommandLine

structure CommandResult.Reports (result : CommandResult) (mode : OutputMode) (source : String)
    (answer : Except ParseError Outcome) : Prop where
  answered : (∃ outcome, answer = .ok outcome) ↔ ∃ batch, Batch.parse source = .ok batch
  success : result.success = true ↔ ∃ batch outcome, Batch.parse source = .ok batch
    ∧ answer = .ok outcome ∧ ∀ failure, Slot.failure failure ∉ outcome.slots
  unparsed : ∀ error, Batch.parse source = .error error → result.stdout = some error.render
  structured : ∀ outcome, answer = .ok outcome →
    mode = .structured ∨ outcome.renderCompact? = none →
    result.stdout = some outcome.renderStructured
  compact : ∀ outcome text, answer = .ok outcome → mode = .compact →
    outcome.renderCompact? = some text →
    ∃ shown, result.stdout = some shown ∧ text = shown ++ "\n" ∧ ∀ front, shown ≠ front ++ "\n"
  stderr : result.stderr = none

theorem CommandResult.ofResult_reports (mode : OutputMode) {source : String}
    {answer : Except ParseError Outcome}
    (refused : ∀ error, Batch.parse source = .error error → answer = .error error)
    (ran : ∀ batch, Batch.parse source = .ok batch →
      ∃ outcome, answer = .ok outcome ∧ ∀ slot ∈ outcome.slots, slot.HasFields) :
    (ofResult mode answer).Reports mode source answer := by
  cases parsed : Batch.parse source with
  | error error =>
    obtain rfl := refused error parsed
    have printed : withoutFinalNewlines error.render = error.render :=
      withoutFinalNewlines_of_endsUnbroken error.payload.endsUnbroken_render
    exact {
      answered := by simp [parsed]
      success := by simp [ofResult, rendered]
      unparsed := by simp [ofResult, rendered, parsed, printed]
      structured := by simp
      compact := by simp
      stderr := rfl }
  | ok batch =>
    obtain ⟨outcome, rfl, fields⟩ := ran batch parsed
    have printed : withoutFinalNewlines outcome.renderStructured = outcome.renderStructured :=
      withoutFinalNewlines_of_endsUnbroken outcome.toJson.endsUnbroken_render
    refine {
      answered := by simp [parsed]
      success := by simp [ofResult, rendered, parsed, Outcome.hasFailures_eq_false_iff]
      unparsed := by simp [parsed]
      structured := ?_
      compact := ?_
      stderr := rfl }
    · rintro _ ⟨⟩ asked
      have shown : outcome.render mode = outcome.renderStructured := by
        cases mode with
        | structured => rfl
        | compact =>
          have short : outcome.renderCompact? = none := by simpa using asked
          simp [Outcome.render, short]
      rw [ofResult, rendered, shown, printed]
    · rintro _ text ⟨⟩ rfl short
      have shown : outcome.render .compact = text := by simp [Outcome.render, short]
      have ends := Outcome.endsInOneBreak_renderCompact? fields short
      refine ⟨withoutFinalNewlines text, ?_, exists_of_endsInOneBreak ends⟩
      rw [ofResult, rendered, shown]

example : CommandResult.ofResult .compact
    (.ok (.batch [.records ["assignee"] [[.string ""]], .records ["assignee"] []])) =
      ⟨true, some "assignee\n\"\"\n\nassignee", none⟩ := by decide +kernel

theorem ofResult_submit_reports (mode : OutputMode) (purpose : Purpose) (source : String)
    (store : TaskStore) :
    let answer := (Task.schema.submit purpose source store).answer
    (CommandResult.ofResult mode answer).Reports mode source answer := by
  have built : (Draft.empty.registerAll Task.registrations).build = .ok Task.schema := rfl
  have wellFormed := Registry.wellFormed_of_build built
  have defaults : Task.schema.defaultFields ≠ [] := by decide
  refine CommandResult.ofResult_reports mode (fun error parsed => ?_) (fun batch parsed => ?_)
  · exact congrArg Ran.answer (Task.schema.submit_of_error purpose parsed store)
  · have answered := (Task.schema.submit_of_ok purpose parsed store).1
    exact ⟨_, answered, Registry.hasFields_of_mem_slots wellFormed defaults answered⟩

theorem finish_run (mode : OutputMode) (answer : Except ParseError Outcome) (store : TaskStore) :
    (finish mode answer store).answer = .ofResult mode answer
      ∧ (finish mode answer store).state = store := by
  cases answer <;> exact ⟨rfl, rfl⟩

namespace Command

/-- A command prints the parse error or the rendered outcome, without the line feed that a short
form ends in, and succeeds just when the text parses and no query fails. -/
theorem run_reports (source : String) (mode : OutputMode) (store : TaskStore) :
    (let ran := (query source mode).run store
      let submitted := Task.schema.execute source store
      ran.answer.Reports mode source submitted.answer ∧ ran.state = submitted.state)
    ∧ ∀ options, let ran := (mutate source mode options).run store
      let submitted := Task.schema.mutate options source store
      ran.answer.Reports mode source submitted.answer ∧ ran.state = submitted.state := by
  constructor
  · intro ran submitted
    obtain ⟨result, state⟩ : ran.answer = .ofResult mode submitted.answer
        ∧ ran.state = submitted.state := finish_run mode submitted.answer submitted.state
    rw [result]
    exact ⟨ofResult_submit_reports mode .read source store, state⟩
  · intro options ran submitted
    obtain ⟨result, state⟩ : ran.answer = .ofResult mode submitted.answer
        ∧ ran.state = submitted.state := finish_run mode submitted.answer submitted.state
    rw [result]
    exact ⟨ofResult_submit_reports mode (.mutate options) source store, state⟩

example : ((mutate "create(title=a) \x7b assignee \x7d" .compact ⟨false, false⟩).run
    .withSampleTasks).answer = ⟨true, some "assignee:", none⟩ := by
  rw [run, Task.schema.mutate_eq]
  decide +kernel

end Command

end CommandLine

end Inquiry
