import Inquiry.Execution
import Inquiry.Proofs.Execution.Actions
import Inquiry.Proofs.Query.Concatenation
import Inquiry.Task.Schema

set_option autoImplicit false

namespace Inquiry

theorem Request.ofRead_congr {σ ι : Type} (catalog : Catalog σ ι) {query other : Query}
    (same : query.call = other.call) (selector : Selector ι) :
    ofRead catalog query selector = ofRead catalog other selector := by
  have name : query.operation.text = other.operation.text := congrArg Call.operation same
  rw [ofRead, ofRead, name, query.positionalParams_eq_positional,
    other.positionalParams_eq_positional, query.namedParams_eq_named, other.namedParams_eq_named,
    same]

namespace Registry

variable {σ ι : Type} (schema : Schema σ ι) (purpose : Purpose)

theorem fillSlot_run (query : Query) (state : σ) :
    (schema.fillSlot purpose query state).answer =
        .ofResult ((schema.runQuery purpose query).run state).answer
      ∧ (schema.fillSlot purpose query state).state =
        ((schema.runQuery purpose query).run state).state := ⟨rfl, rfl⟩

@[simp] theorem fillSlots_nil (state : σ) :
    schema.fillSlots purpose [] state = ⟨[], state, []⟩ := rfl

theorem fillSlots_append (first second : List Query) (state : σ) :
    (schema.fillSlots purpose (first ++ second) state).answer =
        (schema.fillSlots purpose first state).answer ++
          (schema.fillSlots purpose second (schema.fillSlots purpose first state).state).answer
      ∧ (schema.fillSlots purpose (first ++ second) state).state =
        (schema.fillSlots purpose second (schema.fillSlots purpose first state).state).state := by
  simp [fillSlots, List.mapM_append]

theorem fillSlots_cons (query : Query) (rest : List Query) (state : σ) :
    (schema.fillSlots purpose (query :: rest) state).answer =
        (schema.fillSlot purpose query state).answer ::
          (schema.fillSlots purpose rest (schema.fillSlot purpose query state).state).answer
      ∧ (schema.fillSlots purpose (query :: rest) state).state =
        (schema.fillSlots purpose rest (schema.fillSlot purpose query state).state).state := by
  simp [fillSlots]

theorem fillSlots_length (queries : List Query) (state : σ) :
    (schema.fillSlots purpose queries state).answer.length = queries.length := by
  induction queries generalizing state with
  | nil => rfl
  | cons query rest ih =>
    rw [(schema.fillSlots_cons purpose query rest state).1, List.length_cons, ih, List.length_cons]

def stateBefore (queries : List Query) (state : σ) (index : Nat) : σ :=
  (schema.fillSlots purpose (queries.take index) state).state

theorem fillSlots_getElem (queries : List Query) (state : σ) (index : Nat) :
    (schema.fillSlots purpose queries state).answer[index]? =
      queries[index]?.map fun query =>
        (schema.fillSlot purpose query
          (schema.stateBefore purpose queries state index)).answer := by
  induction queries generalizing state index with
  | nil => simp
  | cons query rest ih =>
    rw [(schema.fillSlots_cons purpose query rest state).1]
    cases index with
    | zero => rfl
    | succ index =>
      rw [List.getElem?_cons_succ, ih, List.getElem?_cons_succ]
      simp [stateBefore, (schema.fillSlots_cons purpose query _ state).2]

theorem stateBefore_succ {queries : List Query} {index : Nat} {query : Query}
    (located : queries[index]? = some query) (state : σ) :
    schema.stateBefore purpose queries state (index + 1) =
      (schema.fillSlot purpose query (schema.stateBefore purpose queries state index)).state := by
  have split : queries.take (index + 1) = queries.take index ++ [query] := by
    rw [List.take_add_one, located, Option.toList_some]
  rw [stateBefore, split, (schema.fillSlots_append purpose _ _ state).2,
    (schema.fillSlots_cons purpose query [] _).2]
  rfl

theorem runQuery_of_ofRead {query other : Query}
    (name : query.operation.text = other.operation.text)
    (fields : query.requestedFields = other.requestedFields)
    (read : ∀ selector, Request.ofRead schema.catalog query selector =
      Request.ofRead schema.catalog other selector) :
    schema.runQuery purpose query = schema.runQuery purpose other := by
  cases purpose with
  | read => simp only [runQuery, runRead, name, fields, read]
  | mutate options =>
    simp only [runQuery, runMutation, mutationRequest, Request.ofMutation, name, fields, read]

theorem runQuery_congr {query other : Query} (same : query.call = other.call) :
    schema.runQuery purpose query = schema.runQuery purpose other := by
  refine schema.runQuery_of_ofRead purpose (congrArg Call.operation same) ?_
    (Request.ofRead_congr schema.catalog same)
  rw [query.requestedFields_eq_requested, other.requestedFields_eq_requested, same]

theorem fillSlots_congr {queries others : List Query}
    (same : queries.map Query.call = others.map Query.call) (state : σ) :
    (schema.fillSlots purpose queries state).answer =
        (schema.fillSlots purpose others state).answer
      ∧ (schema.fillSlots purpose queries state).state =
        (schema.fillSlots purpose others state).state := by
  induction queries generalizing others state with
  | nil =>
    obtain rfl := List.map_eq_nil_iff.mp same.symm
    exact ⟨rfl, rfl⟩
  | cons query rest ih =>
    obtain ⟨other, tail, rfl, sameCall, sameTail⟩ := List.map_eq_cons_iff.mp same.symm
    have slot := schema.runQuery_congr purpose sameCall
    have answer : (schema.fillSlot purpose query state).answer =
        (schema.fillSlot purpose other state).answer := by
      rw [(schema.fillSlot_run purpose query state).1, (schema.fillSlot_run purpose other state).1,
        slot]
    have reached : (schema.fillSlot purpose query state).state =
        (schema.fillSlot purpose other state).state := by
      rw [(schema.fillSlot_run purpose query state).2, (schema.fillSlot_run purpose other state).2,
        slot]
    have later := ih sameTail.symm (schema.fillSlot purpose other state).state
    rw [(schema.fillSlots_cons purpose query rest state).1,
      (schema.fillSlots_cons purpose query rest state).2,
      (schema.fillSlots_cons purpose other tail state).1,
      (schema.fillSlots_cons purpose other tail state).2, answer, reached, later.1, later.2]
    exact ⟨rfl, rfl⟩

end Registry

theorem Outcome.ofSlots_eq_single_iff (slots : List Slot) :
    (∃ slot, ofSlots slots = single slot) ↔ slots.length = 1 := by
  match slots with
  | [] => simp [ofSlots]
  | [_] => simp [ofSlots]
  | _ :: _ :: _ => simp [ofSlots]

namespace Batch

def only (query : Query) : Batch := ⟨[query], query.span⟩

def take (batch : Batch) (count : Nat) : Batch :=
  { batch with queries := batch.queries.take count }

end Batch

namespace Registry

variable {σ ι : Type} (schema : Schema σ ι) (purpose : Purpose)

def submit (schema : Schema σ ι) : Purpose → String → Effect σ (Except ParseError Outcome)
  | .read => schema.execute
  | .mutate options => schema.mutate options

theorem submit_eq_runSource : schema.submit purpose = schema.runSource purpose := by
  cases purpose <;> rfl

theorem runBatch_run (batch : Batch) (state : σ) :
    (schema.runBatch purpose batch state).answer =
        .ofSlots (schema.fillSlots purpose batch.queries state).answer
      ∧ (schema.runBatch purpose batch state).state =
        (schema.fillSlots purpose batch.queries state).state := ⟨rfl, rfl⟩

theorem submit_of_ok {source : String} {batch : Batch} (parsed : Batch.parse source = .ok batch)
    (state : σ) :
    (schema.submit purpose source state).answer =
        .ok (.ofSlots (schema.fillSlots purpose batch.queries state).answer)
      ∧ (schema.submit purpose source state).state =
        (schema.fillSlots purpose batch.queries state).state := by
  rw [submit_eq_runSource, runSource, parsed]
  exact ⟨rfl, rfl⟩

theorem mutate_eq (options : MutationOptions) (source : String) :
    schema.mutate options source =
      match Batch.ofTokens (Token.scanFrom .origin source.toList) with
      | .ok batch => do
        let outcome ← schema.runBatch (.mutate options) batch
        return .ok outcome
      | .error error => return .error error := by
  have run : ∀ parsed, Batch.parse source = parsed → schema.mutate options source =
      match parsed with
      | .ok batch => do
        let outcome ← schema.runBatch (.mutate options) batch
        return .ok outcome
      | .error error => return .error error := by
    rintro _ rfl
    rfl
  exact run _ (Batch.parse_eq source)

theorem submit_of_error {source : String} {error : ParseError}
    (failed : Batch.parse source = .error error) (state : σ) :
    schema.submit purpose source state = ⟨.error error, state, []⟩ := by
  rw [submit_eq_runSource, runSource, failed]
  rfl

theorem submit_join {first second : String} {batch more : Batch}
    (firstParsed : Batch.parse first = .ok batch) (secondParsed : Batch.parse second = .ok more)
    (state : σ) :
    ∃ slots others,
      (schema.submit purpose first state).answer = .ok (.ofSlots slots)
      ∧ (schema.submit purpose second (schema.submit purpose first state).state).answer =
        .ok (.ofSlots others)
      ∧ (schema.submit purpose (first ++ ";" ++ second) state).answer =
        .ok (.ofSlots (slots ++ others))
      ∧ (schema.submit purpose (first ++ ";" ++ second) state).state =
        (schema.submit purpose second (schema.submit purpose first state).state).state := by
  -- The queries of the whole have other spans than those of the parts, but the same calls.
  obtain ⟨whole, wholeParsed, sameCalls⟩ := Batch.parse_join firstParsed secondParsed
  have same : whole.queries.map Query.call = (batch.queries ++ more.queries).map Query.call := by
    simpa [Batch.calls] using sameCalls
  have spread := schema.fillSlots_congr purpose same state
  have split := schema.fillSlots_append purpose batch.queries more.queries state
  have firstRun := schema.submit_of_ok purpose firstParsed state
  have secondRun := schema.submit_of_ok purpose secondParsed
    (schema.submit purpose first state).state
  have wholeRun := schema.submit_of_ok purpose wholeParsed state
  rw [spread.1, spread.2, split.1, split.2] at wholeRun
  rw [firstRun.2] at secondRun ⊢
  exact ⟨_, _, firstRun.1, secondRun.1, wholeRun.1, by rw [wholeRun.2, secondRun.2]⟩

/-- Running a batch is running its queries in a row, and a source that does not parse runs nothing.
-/
theorem submit_sequential (state : σ) :
    (∀ first second batch more, Batch.parse first = .ok batch → Batch.parse second = .ok more →
      let before := schema.submit purpose first state
      let after := schema.submit purpose second before.state
      let whole := schema.submit purpose (first ++ ";" ++ second) state
      ∃ outcome later joined, before.answer = .ok outcome ∧ after.answer = .ok later
        ∧ whole.answer = .ok joined ∧ joined.slots = outcome.slots ++ later.slots
        ∧ whole.state = after.state)
    ∧ (∀ source batch, Batch.parse source = .ok batch →
      ∃ outcome, (schema.submit purpose source state).answer = .ok outcome
        ∧ outcome.length = batch.length
        ∧ ((∃ slot, outcome = .single slot) ↔ batch.length = 1)
        ∧ (schema.submit purpose source state).state =
          (schema.runBatch purpose (batch.take batch.length) state).state
        ∧ ∀ index query, batch.queries[index]? = some query →
          let before := (schema.runBatch purpose (batch.take index) state).state
          let alone := schema.runBatch purpose (.only query) before
          ∃ slot, outcome.slots[index]? = some slot ∧ alone.answer = .single slot
            ∧ (schema.runBatch purpose (batch.take (index + 1)) state).state = alone.state)
    ∧ (∀ source error, Batch.parse source = .error error →
      schema.submit purpose source state = ⟨.error error, state, []⟩) := by
  refine ⟨?_, ?_, fun source error failed => schema.submit_of_error purpose failed state⟩
  · intro first second batch more firstParsed secondParsed
    obtain ⟨slots, others, firstRun, secondRun, wholeRun, sameState⟩ :=
      schema.submit_join purpose firstParsed secondParsed state
    exact ⟨_, _, _, firstRun, secondRun, wholeRun, by simp, sameState⟩
  · intro source batch parsed
    obtain ⟨answer, reached⟩ := schema.submit_of_ok purpose parsed state
    have count := schema.fillSlots_length purpose batch.queries state
    refine ⟨_, answer, ?_, ?_, ?_, ?_⟩
    · simpa [Outcome.length, Batch.length] using count
    · rw [Outcome.ofSlots_eq_single_iff, count]
      rfl
    · rw [reached, (schema.runBatch_run purpose _ state).2, Batch.take, Batch.length,
        List.take_length]
    · intro index query located
      have slot := schema.fillSlots_getElem purpose batch.queries state index
      rw [located, Option.map_some] at slot
      refine ⟨_, by simpa using slot, ?_, ?_⟩
      · rfl
      · exact schema.stateBefore_succ purpose located state

theorem submit_sequential_tasks :
    let deletion := "delete(task-1)"
    let changes := "create(title=x); update(task-9)"
    let submit := Task.schema.submit (.mutate ⟨true, false⟩)
    let store := TaskStore.withSampleTasks
    ∃ first second error, Batch.parse deletion = .ok first ∧ Batch.parse changes = .ok second
      ∧ Batch.parse "delete(" = .error error
      ∧ (∃ outcome later joined, (submit deletion store).answer = .ok outcome
        ∧ (submit changes (submit deletion store).state).answer = .ok later
        ∧ (submit (deletion ++ ";" ++ changes) store).answer = .ok joined
        ∧ joined.slots = outcome.slots ++ later.slots)
      ∧ (∃ query outcome slot, second.queries[1]? = some query
        ∧ (submit changes store).answer = .ok outcome ∧ outcome.slots[1]? = some slot)
      ∧ submit "delete(" store = ⟨.error error, store, []⟩ := by
  obtain ⟨first, firstParsed, _⟩ : ∃ batch, Batch.parse "delete(task-1)" = .ok batch
      ∧ batch.calls = [⟨"delete", [⟨none, .word "task-1"⟩], none⟩] :=
    Batch.parse_of_calls (by decide +kernel)
  obtain ⟨second, secondParsed, calls⟩ : ∃ batch,
      Batch.parse "create(title=x); update(task-9)" = .ok batch ∧ batch.calls =
        [⟨"create", [⟨some "title", .word "x"⟩], none⟩,
          ⟨"update", [⟨none, .word "task-9"⟩], none⟩] :=
    Batch.parse_of_calls (by decide +kernel)
  obtain ⟨query, located, _⟩ := Batch.query_of_calls calls 1 rfl
  have cut : (Batch.parse "delete(").isOk = false := by
    rw [Batch.parse_eq]
    decide +kernel
  obtain ⟨error, failed⟩ : ∃ error, Batch.parse "delete(" = .error error := by
    cases read : Batch.parse "delete(" with
    | ok batch =>
      rw [read] at cut
      cases cut
    | error error => exact ⟨error, rfl⟩
  dsimp only
  obtain ⟨joins, alone, stops⟩ :=
    submit_sequential Task.schema (.mutate ⟨true, false⟩) TaskStore.withSampleTasks
  obtain ⟨outcome, later, joined, ran, ranLater, ranJoined, same, _⟩ :=
    joins _ _ first second firstParsed secondParsed
  obtain ⟨results, answered, _, _, _, each⟩ := alone _ second secondParsed
  obtain ⟨slot, result, _⟩ := each 1 query located
  exact ⟨first, second, error, firstParsed, secondParsed, failed,
    ⟨outcome, later, joined, ran, ranLater, ranJoined, same⟩,
    ⟨query, results, slot, located, answered, result⟩, stops "delete(" error failed⟩

end Registry

end Inquiry
