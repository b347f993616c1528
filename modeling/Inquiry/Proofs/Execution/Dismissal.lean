import Inquiry.Proofs.Execution.Gate

set_option autoImplicit false

namespace Inquiry

namespace Registry

variable {σ ι : Type} {schema other : Schema σ ι}

section Reads

variable {query : Query} {operation : Operation (Handler σ ι)}

inductive Misses (schema : Schema σ ι) (query : Query) : Failure → Prop where
  | operation (missing : schema.operations.get? query.operation.text = none) :
      Misses schema query (.unknownOperation query.operation.text)
  | fields {operation : Operation (Handler σ ι)} {failure : Failure}
      (known : schema.operations.get? query.operation.text = some operation)
      (failed : schema.selector query.requestedFields = .error failure) :
      Misses schema query failure

theorem runRead_of_known (known : schema.operations.get? query.operation.text = some operation)
    (state : σ) :
    (schema.runRead query).run state =
      ((liftM (schema.selector query.requestedFields) : Action σ (Selector ι)) >>= fun selector =>
        runHandler operation.handler (.ofRead schema.catalog query selector)).run state := by
  have found : schema.findOperation query.operation.text = .ok operation := by
    rw [findOperation, known]
  rw [runRead, Action.run_lift_bind_of_ok _ state found]

theorem Misses.run {failure : Failure} (misses : schema.Misses query failure) (state : σ) :
    (schema.runRead query).run state = ⟨.error failure, state, []⟩ := by
  cases misses with
  | operation missing =>
    refine Action.run_lift_bind_of_error _ state ?_
    rw [findOperation, missing]
  | fields known failed =>
    rw [runRead_of_known known]
    exact Action.run_lift_bind_of_error _ state failed

theorem selector_of_catalog (same : other.catalog = schema.catalog) :
    other.selector = schema.selector := by
  change other.catalog.selector = schema.catalog.selector
  rw [same]

theorem Misses.of_catalog (same : other.catalog = schema.catalog) {failure : Failure}
    (misses : schema.Misses query failure) : other.Misses query failure := by
  have located := operations_of_catalog same query.operation.text
  cases misses with
  | operation missing =>
    rw [missing, Option.map_none] at located
    exact .operation (Option.map_eq_none_iff.mp located)
  | fields known failed =>
    rw [known, Option.map_some] at located
    obtain ⟨twin, twinKnown, -⟩ := Option.map_eq_some_iff.mp located
    exact .fields twinKnown (by rw [selector_of_catalog same, failed])

end Reads

def idle (schema : Schema σ ι) : Schema σ ι :=
  { schema with
    operations := schema.operations.map fun entry =>
      (entry.1, ⟨fun _ => pure (.value .null), entry.2.metadata⟩)
    mutations := schema.mutations.map fun entry =>
      (entry.1, ⟨fun _ => pure (.value .null), entry.2.metadata⟩) }

theorem catalog_idle (schema : Schema σ ι) : schema.idle.catalog = schema.catalog := by
  simp only [catalog, idle, List.map_map]
  rfl

theorem get?_idle_operations (schema : Schema σ ι) (name : String) :
    schema.idle.operations.get? name =
      (schema.operations.get? name).map fun operation =>
        ⟨fun _ => pure (.value .null), operation.metadata⟩ :=
  Entries.get?_map
    (fun _ (operation : Operation (Handler σ ι)) =>
      (⟨fun _ => pure (.value .null), operation.metadata⟩ : Operation (Handler σ ι)))
    schema.operations name

theorem get?_idle_mutations (schema : Schema σ ι) (name : String) :
    schema.idle.mutations.get? name =
      (schema.mutations.get? name).map fun mutation =>
        ⟨fun _ => pure (.value .null), mutation.metadata⟩ :=
  Entries.get?_map
    (fun _ (mutation : Mutation (Handler σ ι)) =>
      (⟨fun _ => pure (.value .null), mutation.metadata⟩ : Mutation (Handler σ ι)))
    schema.mutations name

theorem misses_or_idles (schema : Schema σ ι) (query : Query) :
    (∃ failure, schema.Misses query failure)
      ∨ ∀ state, ((schema.idle.runRead query).run state).answer = .ok (.value .null) := by
  cases known : schema.operations.get? query.operation.text with
  | none => exact .inl ⟨_, .operation known⟩
  | some operation =>
    cases resolved : schema.selector query.requestedFields with
    | error failure => exact .inl ⟨failure, .fields known resolved⟩
    | ok selector =>
      right
      intro state
      have located := get?_idle_operations schema query.operation.text
      rw [known, Option.map_some] at located
      rw [runRead_of_known located, Action.run_lift_bind_of_ok _ state
        (by rw [selector_of_catalog (catalog_idle schema), resolved])]
      rfl

theorem refuses_or_idles (coherent : schema.Coherent) (options : MutationOptions) (query : Query) :
    (∃ code failure, schema.Refuses options query code failure)
      ∨ ∀ state, ((schema.idle.runMutation options query).run state).answer = .ok (.value .null) := by
  rcases schema.admits_or_refuses options query with ⟨mutation, admits⟩ | refuses
  · right
    intro state
    have located := get?_idle_mutations schema query.operation.text
    rw [admits.known, Option.map_some] at located
    have idles := admits.of_catalog (catalog_idle schema) located rfl
    obtain ⟨selector, resolved⟩ :=
      selector_of_known (coherent.of_catalog (catalog_idle schema)) idles.fields
    rw [idles.run resolved]
    rfl
  · exact .inl refuses

def Bars (schema : Schema σ ι) : Purpose → Query → Failure → Prop
  | .read, query, failure => schema.Misses query failure
  | .mutate options, query, failure => ∃ code, schema.Refuses options query code failure

def resultAt (schema : Schema σ ι) (purpose : Purpose) (source : String) (state : σ)
    (index : Nat) : Option Slot :=
  match (schema.submit purpose source state).answer with
  | .ok outcome => outcome.slots[index]?
  | .error _ => none

def Dismisses (schema : Schema σ ι) (purpose : Purpose) (source : String) (state : σ)
    (index : Nat) (failure : Failure) : Prop :=
  ∀ other : Schema σ ι, other.catalog = schema.catalog →
    other.resultAt purpose source state index = some (.failure failure)

section Dismissals

variable {purpose : Purpose} {query : Query} {failure : Failure}

theorem Bars.answer (coherent : schema.Coherent) (bars : schema.Bars purpose query failure)
    (state : σ) : ((schema.runQuery purpose query).run state).answer = .error failure := by
  cases purpose with
  | read => exact congrArg Ran.answer (Misses.run bars state)
  | mutate options =>
    obtain ⟨code, refuses⟩ := bars
    obtain ⟨log, stopped⟩ := refuses.run coherent state
    exact congrArg Ran.answer stopped

theorem Bars.of_catalog (same : other.catalog = schema.catalog)
    (bars : schema.Bars purpose query failure) : other.Bars purpose query failure := by
  cases purpose with
  | read => exact Misses.of_catalog same bars
  | mutate options =>
    obtain ⟨code, refuses⟩ := bars
    exact ⟨code, refuses.of_catalog same⟩

theorem bars_or_idles (coherent : schema.Coherent) (purpose : Purpose) (query : Query) :
    (∃ failure, schema.Bars purpose query failure)
      ∨ ∀ state, ((schema.idle.runQuery purpose query).run state).answer = .ok (.value .null) := by
  cases purpose with
  | read => exact schema.misses_or_idles query
  | mutate options =>
    rcases refuses_or_idles coherent options query with ⟨code, failure, refuses⟩ | idles
    · exact .inl ⟨failure, code, refuses⟩
    · exact .inr idles

variable {source : String} {batch : Batch} {index : Nat}

theorem resultAt_of_located (schema : Schema σ ι) (purpose : Purpose)
    (parsed : Batch.parse source = .ok batch) (located : batch.queries[index]? = some query)
    (state : σ) :
    ∃ before, schema.resultAt purpose source state index =
      some (.ofResult ((schema.runQuery purpose query).run before).answer) := by
  have slot := schema.fillSlots_getElem purpose batch.queries state index
  rw [located, Option.map_some] at slot
  refine ⟨schema.stateBefore purpose batch.queries state index, ?_⟩
  simp only [resultAt, (schema.submit_of_ok purpose parsed state).1, Outcome.slots_ofSlots]
  exact slot

theorem dismisses_iff_bars (coherent : schema.Coherent) (parsed : Batch.parse source = .ok batch)
    (located : batch.queries[index]? = some query) (state : σ) :
    schema.Dismisses purpose source state index failure ↔ schema.Bars purpose query failure := by
  constructor
  · intro dismisses
    have same := catalog_idle schema
    obtain ⟨before, result⟩ := schema.idle.resultAt_of_located purpose parsed located state
    have failed := Option.some.inj (result.symm.trans (dismisses schema.idle same))
    rcases bars_or_idles coherent purpose query with ⟨barred, bars⟩ | idles
    · rw [(bars.of_catalog same).answer (coherent.of_catalog same)] at failed
      cases failed
      exact bars
    · rw [idles] at failed
      cases failed
  · intro bars other same
    obtain ⟨before, result⟩ := other.resultAt_of_located purpose parsed located state
    rw [result, (bars.of_catalog same).answer (coherent.of_catalog same)]
    rfl

end Dismissals

end Registry

end Inquiry
