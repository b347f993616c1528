import Inquiry.Proofs.Execution.Session
import Inquiry.Proofs.Query.Writing
import Inquiry.Proofs.Task.Plan

set_option autoImplicit false

namespace Inquiry

namespace Registry

variable {σ ι : Type}

def Atomic (schema : Schema σ ι) (options : MutationOptions) : Prop :=
  ∀ query state, (schema.fillSlot (.mutate options) query state).answer.isFailure = true →
    (schema.fillSlot (.mutate options) query state).state = state

def succeeded (queries : List Query) (slots : List Slot) : List (Query × Slot) :=
  (queries.zip slots).filter fun filled => !filled.2.isFailure

theorem succeeded_cons (query : Query) (queries : List Query) (slot : Slot) (slots : List Slot) :
    succeeded (query :: queries) (slot :: slots) =
      if slot.isFailure = true then succeeded queries slots
      else (query, slot) :: succeeded queries slots := by
  cases failed : slot.isFailure <;> simp [succeeded, failed]

theorem Atomic.fillSlots_succeeded {schema : Schema σ ι} {options : MutationOptions}
    (atomic : schema.Atomic options) (queries : List Query) (state : σ) :
    let ran := schema.fillSlots (.mutate options) queries state
    let kept := succeeded queries ran.answer
    let again := schema.fillSlots (.mutate options) (kept.map Prod.fst) state
    again.answer = kept.map Prod.snd ∧ again.state = ran.state := by
  induction queries generalizing state with
  | nil => exact ⟨rfl, rfl⟩
  | cons query rest ih =>
    have split := schema.fillSlots_cons (.mutate options) query rest state
    dsimp only
    rw [split.1, split.2, succeeded_cons]
    by_cases failed : (schema.fillSlot (.mutate options) query state).answer.isFailure = true
    case pos =>
      rw [if_pos failed, atomic query state failed]
      exact ih state
    case neg =>
      obtain ⟨answers, reached⟩ := ih (schema.fillSlot (.mutate options) query state).state
      rw [if_neg failed, List.map_cons, List.map_cons,
        (schema.fillSlots_cons (.mutate options) query _ state).1,
        (schema.fillSlots_cons (.mutate options) query _ state).2, answers, reached]
      exact ⟨rfl, rfl⟩

end Registry

namespace Task

theorem schema_atomic (options : MutationOptions) : schema.Atomic options := by
  intro query store failed
  obtain ⟨answer, reached⟩ := schema.fillSlot_run (.mutate options) query store
  rw [answer] at failed
  rw [reached]
  obtain ⟨failure, log, stopped⟩ := runMutation_of_failed query store failed
  exact congrArg Ran.state stopped

/-- A query that fails leaves the store as it was. A batch without the queries that fail leaves the
same store, and its results are those of the queries that are left. -/
theorem failures_leave_no_trace (options : MutationOptions) {source : String} {batch : Batch}
    (parsed : Batch.parse source = .ok batch) (store : TaskStore) :
    (∀ index query slot, batch.queries[index]? = some query →
      schema.slotAt options source store index = some slot → slot.isFailure = true →
      (schema.runBatch (.mutate options) (batch.take (index + 1)) store).state =
        (schema.runBatch (.mutate options) (batch.take index) store).state)
    ∧ ∃ outcome, (schema.mutate options source store).answer = .ok outcome
      ∧ let kept := (batch.queries.zip outcome.slots).filter fun filled => !filled.2.isFailure
        let calls := kept.map fun filled => filled.1.call
        (kept ≠ [] →
          ∃ rest, Batch.parse (writeCalls calls) = .ok rest ∧ rest.calls = calls)
        ∧ ∀ other rest, Batch.parse other = .ok rest → rest.calls = calls →
          ∃ results, (schema.mutate options other store).answer = .ok results
            ∧ results.slots = kept.map Prod.snd
            ∧ (schema.mutate options other store).state =
              (schema.mutate options source store).state := by
  have ran := schema.submit_of_ok (.mutate options) parsed store
  simp only [Registry.submit] at ran
  refine ⟨?_, _, ran.1, ?_, ?_⟩
  · intro index query slot located answered failed
    obtain ⟨rfl, reached⟩ := schema.run_of_slotAt parsed located answered
    exact reached.trans (schema_atomic options query _ failed)
  · intro nonempty
    apply Batch.parse_writeCalls
    · simpa using nonempty
    · intro call member
      obtain ⟨filled, inKept, rfl⟩ := List.mem_map.mp member
      obtain ⟨query, slot⟩ := filled
      exact Batch.calls_wellFormed parsed _
        (List.mem_map_of_mem (List.of_mem_zip (List.mem_filter.mp inKept).1).1)
  · intro other rest otherParsed same
    have otherRan := schema.submit_of_ok (.mutate options) otherParsed store
    simp only [Registry.submit] at otherRan
    rw [Outcome.slots_ofSlots, ← Registry.succeeded] at same ⊢
    -- The queries of the other text may have other spans than those that are left.
    have sameCalls : rest.queries.map Query.call =
        ((Registry.succeeded batch.queries
          (schema.fillSlots (.mutate options) batch.queries store).answer).map Prod.fst).map
            Query.call := by
      rw [List.map_map]
      exact same
    have respelled := schema.fillSlots_congr (.mutate options) sameCalls store
    have erased := (schema_atomic options).fillSlots_succeeded batch.queries store
    rw [respelled.1, respelled.2, erased.1, erased.2] at otherRan
    exact ⟨_, otherRan.1, Outcome.slots_ofSlots _, otherRan.2.trans ran.2.symm⟩

theorem failures_leave_no_trace_sample :
    let options : MutationOptions := ⟨false, false⟩
    let source := "create(title=x); update(task-99); delete(task-1)"
    let store := TaskStore.withSampleTasks
    ∃ batch query slot rest, Batch.parse source = .ok batch
      ∧ batch.queries[1]? = some query ∧ schema.slotAt options source store 1 = some slot
      ∧ slot.isFailure = true
      ∧ (schema.runBatch (.mutate options) (batch.take 2) store).state =
        (schema.runBatch (.mutate options) (batch.take 1) store).state
      ∧ Batch.parse "create(title=x)" = .ok rest
      ∧ (schema.mutate options "create(title=x)" store).state =
        (schema.mutate options source store).state := by
  obtain ⟨batch, parsed, calls⟩ : ∃ batch,
      Batch.parse "create(title=x); update(task-99); delete(task-1)" = .ok batch ∧ batch.calls =
        [⟨"create", [⟨some "title", .word "x"⟩], none⟩, ⟨"update", [⟨none, .word "task-99"⟩], none⟩,
          ⟨"delete", [⟨none, .word "task-1"⟩], none⟩] :=
    Batch.parse_of_calls (by decide +kernel)
  obtain ⟨rest, restParsed, restCalls⟩ : ∃ batch, Batch.parse "create(title=x)" = .ok batch
      ∧ batch.calls = [⟨"create", [⟨some "title", .word "x"⟩], none⟩] :=
    Batch.parse_of_calls (by decide +kernel)
  obtain ⟨query, located, _⟩ := Batch.query_of_calls calls 1 rfl
  have second : (schema.slotAt ⟨false, false⟩ "create(title=x); update(task-99); delete(task-1)"
      TaskStore.withSampleTasks 1).map Slot.isFailure = some true := by
    rw [Registry.slotAt, schema.mutate_eq]
    decide +kernel
  obtain ⟨slot, answered, failed⟩ := Option.map_eq_some_iff.mp second
  have failures : ((schema.mutate ⟨false, false⟩ "create(title=x); update(task-99); delete(task-1)"
      TaskStore.withSampleTasks).answer.toOption.map fun outcome =>
        outcome.slots.map Slot.isFailure) = some [false, true, true] := by
    rw [schema.mutate_eq]
    decide +kernel
  intro options source store
  obtain ⟨traceless, outcome, ran, -, same⟩ := failures_leave_no_trace options parsed store
  have kept : rest.calls = (((batch.queries.zip outcome.slots).filter fun filled =>
      !filled.2.isFailure).map fun filled => filled.1.call) := by
    rw [ran, Except.toOption, Option.map_some, Option.some_inj] at failures
    rw [Batch.calls] at calls
    obtain ⟨first, queries, whole, firstCall, others⟩ := List.map_eq_cons_iff.mp calls
    obtain ⟨second, last, rfl, -, others⟩ := List.map_eq_cons_iff.mp others
    obtain ⟨third, rfl, -⟩ := List.map_eq_singleton_iff.mp others
    obtain ⟨made, slots, answers, works, refusals⟩ := List.map_eq_cons_iff.mp failures
    obtain ⟨missing, last, rfl, fails, refusals⟩ := List.map_eq_cons_iff.mp refusals
    obtain ⟨refused, rfl, stops⟩ := List.map_eq_singleton_iff.mp refusals
    simp [whole, answers, works, fails, stops, firstCall, restCalls]
  obtain ⟨_, _, _, reached⟩ := same "create(title=x)" rest restParsed kept
  exact ⟨batch, query, slot, rest, parsed, located, answered, failed,
    traceless 1 query slot located answered failed, restParsed, reached⟩

end Task

end Inquiry
