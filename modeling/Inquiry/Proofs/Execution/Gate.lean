import Inquiry.Proofs.Execution.Sequence
import Inquiry.Proofs.Registry.Resolution
import Inquiry.Proofs.Request.Arguments

set_option autoImplicit false

namespace Inquiry

namespace Request

variable {σ ι : Type}

theorem validate_ofMutation_congr (catalog : Catalog σ ι) (query : Query)
    (selector other : Selector ι) (dryRun : Bool) (parameters : List Parameter) :
    (ofMutation catalog query selector dryRun).validate parameters =
      (ofMutation catalog query other dryRun).validate parameters := by
  unfold ofMutation ofRead ofArguments
  dsimp only
  split <;> rfl

theorem code_of_validate {request : Request σ ι} {parameters : List Parameter} {failure : Failure}
    (failed : request.validate parameters = .error failure) :
    failure.code = .required ∨ failure.code = .invalidValue := by
  unfold validate at failed
  split at failed
  next => cases failed
  next first rest _ =>
    cases failed
    obtain ⟨parameter, kind⟩ := first
    cases kind with
    | missing => exact .inl rfl
    | notAllowed value => exact .inr rfl

end Request

namespace Registry

variable {σ ι : Type}

def Fits (schema : Schema σ ι) (options : MutationOptions) (query : Query)
    (mutation : Mutation (Handler σ ι)) : Prop :=
  ∀ metadata, mutation.metadata = some metadata → ∀ selector,
    (Request.ofMutation schema.catalog query selector options.dryRun).validate metadata.parameters
      = .ok ()

structure Admits (schema : Schema σ ι) (options : MutationOptions) (query : Query)
    (mutation : Mutation (Handler σ ι)) : Prop where
  known : schema.mutations.get? query.operation.text = some mutation
  confirmed : mutation.isDestructive = true → options.confirmed = true
  fields : ∀ name ∈ query.requestedFields, schema.Knows name
  arguments : schema.Fits options query mutation

-- The first stage that a query fails, by the code and the failure that report it.
inductive Refuses (schema : Schema σ ι) (options : MutationOptions) (query : Query) :
    FailureCode → Failure → Prop where
  | unknown (missing : schema.mutations.get? query.operation.text = none) :
      Refuses schema options query .notFound (.unknownMutation query.operation.text)
  | unconfirmed {mutation : Mutation (Handler σ ι)}
      (known : schema.mutations.get? query.operation.text = some mutation)
      (destructive : mutation.isDestructive = true) (withheld : options.confirmed = false) :
      Refuses schema options query .forbidden (.unconfirmed query.operation.text)
  | field {mutation : Mutation (Handler σ ι)} {before after : List String} {name : String}
      (known : schema.mutations.get? query.operation.text = some mutation)
      (confirmed : mutation.isDestructive = true → options.confirmed = true)
      (asked : query.requestedFields = before ++ name :: after)
      (earlier : ∀ other ∈ before, schema.Knows other) (unknown : ¬ schema.Knows name) :
      Refuses schema options query .validation (.unknownField name)
  | arguments {mutation : Mutation (Handler σ ι)} {metadata : MutationMetadata}
      {code : FailureCode} {failure : Failure}
      (known : schema.mutations.get? query.operation.text = some mutation)
      (confirmed : mutation.isDestructive = true → options.confirmed = true)
      (fields : ∀ name ∈ query.requestedFields, schema.Knows name)
      (declared : mutation.metadata = some metadata)
      (unfit : ∀ selector,
        (Request.ofMutation schema.catalog query selector options.dryRun).validate
          metadata.parameters = .error failure)
      (reported : code = .required ∨ code = .invalidValue) (same : failure.code = code) :
      Refuses schema options query code failure

theorem Refuses.code_eq {schema : Schema σ ι} {options : MutationOptions} {query : Query}
    {code : FailureCode} {failure : Failure} (refuses : schema.Refuses options query code failure) :
    failure.code = code := by
  cases refuses with
  | unknown => rfl
  | unconfirmed => rfl
  | field => rfl
  | arguments _ _ _ _ _ _ same => exact same

section Stages

variable (schema : Schema σ ι) (options : MutationOptions) (query : Query)

theorem admits_or_refuses :
    (∃ mutation, schema.Admits options query mutation)
      ∨ ∃ code failure, schema.Refuses options query code failure := by
  cases known : schema.mutations.get? query.operation.text with
  | none => exact .inr ⟨_, _, .unknown known⟩
  | some mutation =>
    by_cases confirmed : mutation.isDestructive = true → options.confirmed = true
    case neg =>
      obtain ⟨destructive, withheld⟩ := Classical.not_imp.mp confirmed
      exact .inr ⟨_, _, .unconfirmed known destructive (by simpa using withheld)⟩
    case pos =>
      by_cases fields : ∀ name ∈ query.requestedFields, schema.Knows name
      case neg =>
        obtain ⟨before, name, after, asked, earlier, unknown⟩ := exists_first_of_not_forall fields
        exact .inr ⟨_, _, .field known confirmed asked earlier unknown⟩
      case pos =>
        cases declared : mutation.metadata with
        | none =>
          have arguments : schema.Fits options query mutation := by
            intro metadata present
            rw [declared] at present
            cases present
          exact .inl ⟨mutation, known, confirmed, fields, arguments⟩
        | some metadata =>
          -- One projection speaks for all.
          let request := fun selector =>
            Request.ofMutation schema.catalog query selector options.dryRun
          have same : ∀ selector, (request selector).validate metadata.parameters =
              (request ⟨[]⟩).validate metadata.parameters :=
            fun selector => Request.validate_ofMutation_congr _ _ _ _ _ _
          cases checked : (request ⟨[]⟩).validate metadata.parameters with
          | ok =>
            have arguments : schema.Fits options query mutation := by
              intro others present selector
              rw [declared] at present
              cases present
              exact (same selector).trans checked
            exact .inl ⟨mutation, known, confirmed, fields, arguments⟩
          | error failure =>
            exact .inr ⟨failure.code, failure, .arguments known confirmed fields declared
              (fun selector => (same selector).trans checked) (Request.code_of_validate checked)
              rfl⟩

end Stages

section Runs

variable {schema : Schema σ ι} {options : MutationOptions} {query : Query}
  {mutation : Mutation (Handler σ ι)}

theorem findMutation_of_known {name : String}
    (known : schema.mutations.get? name = some mutation) :
    schema.findMutation name = .ok mutation := by
  rw [findMutation, known]

theorem requireConfirmation_of_confirmed (name : String)
    (confirmed : mutation.isDestructive = true → options.confirmed = true) (state : σ) :
    (requireConfirmation name mutation options).run state = ⟨.ok (), state, []⟩ := by
  have passes : (mutation.isDestructive && !options.confirmed) = false := by
    cases destructive : mutation.isDestructive with
    | false => rfl
    | true => simp [confirmed destructive]
  rw [requireConfirmation, passes]
  rfl

theorem requireConfirmation_of_unconfirmed (name : String)
    (destructive : mutation.isDestructive = true) (withheld : options.confirmed = false)
    (state : σ) :
    ∃ log, (requireConfirmation name mutation options).run state =
      ⟨.error (.unconfirmed name), state, log⟩ := by
  rw [requireConfirmation, destructive, withheld]
  exact ⟨_, rfl⟩

theorem runMutation_of_unknown (missing : schema.mutations.get? query.operation.text = none)
    (state : σ) :
    (schema.runMutation options query).run state =
      ⟨.error (.unknownMutation query.operation.text), state, []⟩ := by
  have failed : schema.findMutation query.operation.text =
      .error (.unknownMutation query.operation.text) := by
    rw [findMutation, missing]
  exact Action.run_lift_bind_of_error _ state failed

theorem runMutation_of_unconfirmed
    (known : schema.mutations.get? query.operation.text = some mutation)
    (destructive : mutation.isDestructive = true) (withheld : options.confirmed = false)
    (state : σ) :
    ∃ log, (schema.runMutation options query).run state =
      ⟨.error (.unconfirmed query.operation.text), state, log⟩ := by
  obtain ⟨log, stopped⟩ := requireConfirmation_of_unconfirmed query.operation.text destructive
    withheld state
  refine ⟨log, ?_⟩
  rw [runMutation, Action.run_lift_bind_of_ok _ state (findMutation_of_known known)]
  exact Action.run_bind_of_error _ stopped

theorem runMutation_of_confirmed
    (known : schema.mutations.get? query.operation.text = some mutation)
    (confirmed : mutation.isDestructive = true → options.confirmed = true) (state : σ) :
    (schema.runMutation options query).run state =
      ((liftM (schema.mutationRequest mutation query options) : Action σ (Request σ ι)) >>=
        runHandler mutation.handler).run state := by
  have opened := requireConfirmation_of_confirmed query.operation.text confirmed state
  rw [runMutation, Action.run_lift_bind_of_ok _ state (findMutation_of_known known),
    Action.run_bind_of_ok _ opened]
  rfl

theorem mutationRequest_of_resolved {selector : Selector ι}
    (resolved : schema.selector query.requestedFields = .ok selector)
    (arguments : schema.Fits options query mutation) :
    schema.mutationRequest mutation query options =
      .ok (Request.ofMutation schema.catalog query selector options.dryRun) := by
  unfold mutationRequest
  rw [resolved]
  cases declared : mutation.metadata with
  | none => rfl
  | some metadata =>
    have passed := arguments metadata declared selector
    simp only [bind, Except.bind, passed]
    rfl

theorem runHandler_run (handler : Handler σ ι) (request : Request σ ι) (state : σ) :
    let ran := (handler request).run state
    (runHandler handler request).run state =
      ⟨ran.answer.map request.selector.project, ran.state, ran.log⟩ := by
  intro ran
  rcases called : ran with ⟨failure | output, after, log⟩
  · exact Action.run_bind_of_error _ called
  · rw [runHandler, Action.run_bind_of_ok _ called]
    simp [Except.map]

theorem Admits.run (admits : schema.Admits options query mutation) {selector : Selector ι}
    (resolved : schema.selector query.requestedFields = .ok selector) (state : σ) :
    (schema.runMutation options query).run state =
      (runHandler mutation.handler
        (Request.ofMutation schema.catalog query selector options.dryRun)).run state := by
  have request := mutationRequest_of_resolved resolved admits.arguments
  rw [runMutation_of_confirmed admits.known admits.confirmed,
    Action.run_lift_bind_of_ok _ state request]

theorem Refuses.run (coherent : schema.Coherent) {code : FailureCode} {failure : Failure}
    (refuses : schema.Refuses options query code failure) (state : σ) :
    ∃ log, (schema.runMutation options query).run state = ⟨.error failure, state, log⟩ := by
  cases refuses with
  | unknown missing => exact ⟨[], runMutation_of_unknown missing state⟩
  | unconfirmed known destructive withheld =>
    exact runMutation_of_unconfirmed known destructive withheld state
  | @field mutation before after name known confirmed asked earlier unknown =>
    have failed : schema.selector query.requestedFields = .error (.unknownField name) := by
      rw [asked]
      exact selector_of_unknown coherent earlier unknown
    rw [runMutation_of_confirmed known confirmed]
    refine ⟨[], Action.run_lift_bind_of_error _ state ?_⟩
    rw [mutationRequest, failed]
    rfl
  | arguments known confirmed fields declared unfit =>
    obtain ⟨selector, resolved⟩ := selector_of_known coherent fields
    rw [runMutation_of_confirmed known confirmed]
    refine ⟨[], Action.run_lift_bind_of_error _ state ?_⟩
    rw [mutationRequest, resolved, declared]
    simp only [bind, Except.bind, unfit selector]

end Runs

section Catalogs

variable {schema other : Schema σ ι} {options : MutationOptions} {query : Query}
  {mutation : Mutation (Handler σ ι)}

theorem get?_catalog_operations (schema : Schema σ ι) (name : String) :
    schema.catalog.operations.get? name =
      (schema.operations.get? name).map fun operation => ⟨(), operation.metadata⟩ :=
  Entries.get?_map (fun _ (operation : Operation (Handler σ ι)) => Operation.mk () operation.metadata)
    schema.operations name

theorem get?_catalog_mutations (schema : Schema σ ι) (name : String) :
    schema.catalog.mutations.get? name =
      (schema.mutations.get? name).map fun mutation => ⟨(), mutation.metadata⟩ :=
  Entries.get?_map (fun _ (mutation : Mutation (Handler σ ι)) => Mutation.mk () mutation.metadata)
    schema.mutations name

theorem operations_of_catalog (same : other.catalog = schema.catalog) (name : String) :
    (other.operations.get? name).map Operation.metadata =
      (schema.operations.get? name).map Operation.metadata := by
  have located := congrArg (Option.map Operation.metadata) (get?_catalog_operations other name)
  rw [same, get?_catalog_operations, Option.map_map, Option.map_map] at located
  exact located.symm

theorem mutations_of_catalog (same : other.catalog = schema.catalog) (name : String) :
    (other.mutations.get? name).map Mutation.metadata =
      (schema.mutations.get? name).map Mutation.metadata := by
  have located := congrArg (Option.map Mutation.metadata) (get?_catalog_mutations other name)
  rw [same, get?_catalog_mutations, Option.map_map, Option.map_map] at located
  exact located.symm

theorem exists_mutation_of_catalog (same : other.catalog = schema.catalog) {name : String}
    (known : schema.mutations.get? name = some mutation) :
    ∃ twin, other.mutations.get? name = some twin ∧ twin.metadata = mutation.metadata := by
  have located := mutations_of_catalog same name
  rw [known, Option.map_some] at located
  exact Option.map_eq_some_iff.mp located

theorem isDestructive_congr {twin : Mutation (Handler σ ι)}
    (same : twin.metadata = mutation.metadata) : twin.isDestructive = mutation.isDestructive := by
  rw [Mutation.isDestructive, Mutation.isDestructive, same]

theorem knows_of_catalog (same : other.catalog = schema.catalog) (name : String) :
    other.Knows name ↔ schema.Knows name := by
  have fields : other.fields = schema.fields := (congrArg Registry.fields same :)
  have presets : other.presets = schema.presets := (congrArg Registry.presets same :)
  rw [Knows, Knows, fields, presets]

theorem Coherent.of_catalog (same : other.catalog = schema.catalog) (coherent : schema.Coherent) :
    other.Coherent := by
  have fields : other.fields = schema.fields := (congrArg Registry.fields same :)
  have presets : other.presets = schema.presets := (congrArg Registry.presets same :)
  have defaults : other.defaultFields = schema.defaultFields := (congrArg Registry.defaultFields same :)
  constructor
  · rw [fields, presets]
    exact coherent.presets
  · rw [fields, defaults]
    exact coherent.defaults

theorem Admits.of_catalog (same : other.catalog = schema.catalog)
    (admits : schema.Admits options query mutation) {twin : Mutation (Handler σ ι)}
    (known : other.mutations.get? query.operation.text = some twin)
    (sameMetadata : twin.metadata = mutation.metadata) : other.Admits options query twin where
  known := known
  confirmed := by
    rw [isDestructive_congr sameMetadata]
    exact admits.confirmed
  fields name asked := (knows_of_catalog same name).mpr (admits.fields name asked)
  arguments := by
    intro metadata declared selector
    rw [same]
    exact admits.arguments metadata (sameMetadata ▸ declared) selector

theorem Refuses.of_catalog (same : other.catalog = schema.catalog) {code : FailureCode}
    {failure : Failure} (refuses : schema.Refuses options query code failure) :
    other.Refuses options query code failure := by
  have knows := knows_of_catalog same
  cases refuses with
  | unknown missing =>
    have located := mutations_of_catalog same query.operation.text
    rw [missing, Option.map_none] at located
    exact .unknown (Option.map_eq_none_iff.mp located)
  | unconfirmed known destructive withheld =>
    obtain ⟨twin, twinKnown, sameMetadata⟩ := exists_mutation_of_catalog same known
    exact .unconfirmed twinKnown ((isDestructive_congr sameMetadata).trans destructive) withheld
  | field known confirmed asked earlier unknown =>
    obtain ⟨twin, twinKnown, sameMetadata⟩ := exists_mutation_of_catalog same known
    rw [← isDestructive_congr sameMetadata] at confirmed
    exact .field twinKnown confirmed asked (fun name member => (knows name).mpr (earlier name member))
      (mt (knows _).mp unknown)
  | arguments known confirmed fields declared unfit reported sameCode =>
    obtain ⟨twin, twinKnown, sameMetadata⟩ := exists_mutation_of_catalog same known
    rw [← isDestructive_congr sameMetadata] at confirmed
    refine .arguments twinKnown confirmed (fun name asked => (knows name).mpr (fields name asked))
      (sameMetadata.trans declared) ?_ reported sameCode
    intro selector
    rw [same]
    exact unfit selector

end Catalogs

section Handlers

def withHandler (schema : Schema σ ι) (name : String) (handler : Handler σ ι) : Schema σ ι :=
  { schema with
    mutations := schema.mutations.map fun entry =>
      (entry.1, if entry.1 = name then ⟨handler, entry.2.metadata⟩ else entry.2) }

variable (schema : Schema σ ι) (name : String) (handler : Handler σ ι)

theorem get?_withHandler :
    (schema.withHandler name handler).mutations.get? name =
      (schema.mutations.get? name).map fun mutation => ⟨handler, mutation.metadata⟩ := by
  have located := Entries.get?_map
    (fun other (mutation : Mutation (Handler σ ι)) =>
      if other = name then ⟨handler, mutation.metadata⟩ else mutation) schema.mutations name
  simp only [if_true] at located
  exact located

theorem catalog_withHandler : (schema.withHandler name handler).catalog = schema.catalog := by
  simp only [catalog, withHandler, List.map_map]
  congr 1
  apply List.map_congr_left
  intro entry member
  dsimp only [Function.comp_apply]
  split <;> rfl

theorem Admits.withHandler {schema : Schema σ ι} {options : MutationOptions} {query : Query}
    {mutation : Mutation (Handler σ ι)} (admits : schema.Admits options query mutation) :
    (schema.withHandler query.operation.text handler).Admits options query
      ⟨handler, mutation.metadata⟩ :=
  admits.of_catalog (schema.catalog_withHandler _ handler)
    (by rw [get?_withHandler, admits.known, Option.map_some]) rfl

end Handlers

-- Whatever handler the mutation has, the run is one run of that handler: it leaves the state and
-- the notes that the handler leaves, and answers with the projection of what the handler answers.
def Invokes (schema : Schema σ ι) (options : MutationOptions) (query : Query) (state : σ) : Prop :=
  ∃ request, ∀ handler : Handler σ ι,
    let ran := (handler request).run state
    ((schema.withHandler query.operation.text handler).runMutation options query).run state =
      ⟨ran.answer.map request.selector.project, ran.state, ran.log⟩

section Gate

variable {schema : Schema σ ι} {options : MutationOptions} {query : Query}

theorem Admits.invokes (coherent : schema.Coherent) {mutation : Mutation (Handler σ ι)}
    (admits : schema.Admits options query mutation) (state : σ) :
    schema.Invokes options query state := by
  obtain ⟨selector, resolved⟩ := selector_of_known coherent admits.fields
  refine ⟨Request.ofMutation schema.catalog query selector options.dryRun, fun handler => ?_⟩
  have replaced := (admits.withHandler handler).run resolved state
  rwa [catalog_withHandler, runHandler_run] at replaced

-- A handler that succeeds without doing anything tells a run from a refusal.
theorem Refuses.not_invokes (coherent : schema.Coherent) {code : FailureCode} {failure : Failure}
    (refuses : schema.Refuses options query code failure) (state : σ) :
    ¬ schema.Invokes options query state := by
  rintro ⟨request, invoked⟩
  let idle : Handler σ ι := fun _ => pure (.value .null)
  have same := schema.catalog_withHandler query.operation.text idle
  obtain ⟨log, refused⟩ := (refuses.of_catalog same).run (coherent.of_catalog same) state
  have ran := (invoked idle).symm.trans refused
  cases ran

theorem invokes_iff_admits (coherent : schema.Coherent) (state : σ) :
    schema.Invokes options query state ↔ ∃ mutation, schema.Admits options query mutation := by
  constructor
  next =>
    intro invokes
    rcases schema.admits_or_refuses options query with admits | ⟨code, failure, refuses⟩
    · exact admits
    · exact absurd invokes (refuses.not_invokes coherent state)
  next =>
    rintro ⟨mutation, admits⟩
    exact admits.invokes coherent state

def slotAt (schema : Schema σ ι) (options : MutationOptions) (source : String) (state : σ)
    (index : Nat) : Option Slot :=
  match (schema.mutate options source state).answer with
  | .ok outcome => outcome.slots[index]?
  | .error _ => none

theorem slotAt_of_located {source : String} {batch : Batch}
    (parsed : Batch.parse source = .ok batch) {index : Nat}
    (located : batch.queries[index]? = some query) (state : σ) :
    let before := (schema.runBatch (.mutate options) (batch.take index) state).state
    schema.slotAt options source state index =
        some (.ofResult ((schema.runMutation options query).run before).answer)
      ∧ (schema.runBatch (.mutate options) (batch.take (index + 1)) state).state =
        ((schema.runMutation options query).run before).state := by
  have slot := schema.fillSlots_getElem (.mutate options) batch.queries state index
  rw [located, Option.map_some] at slot
  refine ⟨?_, schema.stateBefore_succ (.mutate options) located state⟩
  have answer := (schema.submit_of_ok (.mutate options) parsed state).1
  rw [submit] at answer
  simp only [slotAt, answer, Outcome.slots_ofSlots]
  exact slot

theorem Refuses.slotAt (coherent : schema.Coherent) {code : FailureCode} {failure : Failure}
    (refuses : schema.Refuses options query code failure) {source : String} {batch : Batch}
    (parsed : Batch.parse source = .ok batch) {index : Nat}
    (located : batch.queries[index]? = some query) (state : σ) :
    schema.slotAt options source state index = some (.failure failure)
      ∧ (schema.runBatch (.mutate options) (batch.take (index + 1)) state).state =
        (schema.runBatch (.mutate options) (batch.take index) state).state := by
  obtain ⟨slot, reached⟩ := slotAt_of_located parsed located state
  obtain ⟨log, stopped⟩ := refuses.run coherent
    (schema.runBatch (.mutate options) (batch.take index) state).state
  rw [stopped] at slot reached
  exact ⟨slot, reached⟩

end Gate

/-- A mutation's handler runs, and then once, just when the query passes every stage. Otherwise the
query changes nothing and its result is the failure of the first stage that it misses. -/
theorem mutate_gated {registrations : List (Registration σ ι)} {schema : Schema σ ι}
    (built : (Draft.empty.registerAll registrations).build = .ok schema)
    (options : MutationOptions) {source : String} {batch : Batch}
    (parsed : Batch.parse source = .ok batch) (state : σ) {index : Nat} {query : Query}
    (located : batch.queries[index]? = some query) :
    let before := (schema.runBatch (.mutate options) (batch.take index) state).state
    let after := (schema.runBatch (.mutate options) (batch.take (index + 1)) state).state
    ∃ slot, schema.slotAt options source state index = some slot
      ∧ (schema.Invokes options query before ↔ ∃ mutation, schema.Admits options query mutation)
      ∧ (∀ mutation, schema.Admits options query mutation →
        ∃ selector, schema.selector query.requestedFields = .ok selector
          ∧ let request := Request.ofMutation schema.catalog query selector options.dryRun
            let ran := (mutation.handler request).run before
            slot = .ofResult (ran.answer.map selector.project) ∧ after = ran.state)
      ∧ ((¬ ∃ mutation, schema.Admits options query mutation) → after = before
        ∧ ∃ code failure, schema.Refuses options query code failure ∧ failure.code = code
          ∧ slot = .failure failure)
      ∧ ∀ mutation, schema.mutations.get? query.operation.text = some mutation →
        mutation.isDestructive = true → options.confirmed = false →
        ¬ schema.Invokes options query before
        ∧ ∀ (others : MutationOptions) otherSource otherBatch (otherState : σ) otherIndex
          otherQuery, others.confirmed = false → Batch.parse otherSource = .ok otherBatch →
          otherBatch.queries[otherIndex]? = some otherQuery →
          otherQuery.operation.text = query.operation.text →
          schema.slotAt others otherSource otherState otherIndex = some slot := by
  intro before after
  have coherent := coherent_of_build built
  obtain ⟨slot, reached⟩ := slotAt_of_located parsed located state
  refine ⟨_, slot, invokes_iff_admits coherent before, ?_, ?_, ?_⟩
  · intro mutation admits
    obtain ⟨selector, resolved⟩ := selector_of_known coherent admits.fields
    have ran := admits.run resolved before
    rw [runHandler_run, Request.ofMutation_selector] at ran
    exact ⟨selector, resolved, by rw [ran], reached.trans (by rw [ran])⟩
  · intro barred
    obtain ⟨code, failure, refuses⟩ :=
      (schema.admits_or_refuses options query).resolve_left barred
    obtain ⟨refused, unchanged⟩ := refuses.slotAt coherent parsed located state
    exact ⟨unchanged, code, failure, refuses, refuses.code_eq,
      Option.some.inj (slot.symm.trans refused)⟩
  · intro mutation known destructive withheld
    have refuses : schema.Refuses options query _ _ := .unconfirmed known destructive withheld
    obtain ⟨refused, -⟩ := refuses.slotAt coherent parsed located state
    refine ⟨refuses.not_invokes coherent before, ?_⟩
    intro others otherSource otherBatch otherState otherIndex otherQuery othersWithheld
      otherParsed otherLocated sameName
    have otherRefuses : schema.Refuses others otherQuery _ _ :=
      .unconfirmed (sameName ▸ known) destructive othersWithheld
    obtain ⟨otherRefused, -⟩ := otherRefuses.slotAt coherent otherParsed otherLocated otherState
    rw [otherRefused, sameName]
    exact refused.symm.trans slot

section Witness

variable {query : Query} {title : Value}
  (same : query.call = ⟨"create", [⟨some "title", title⟩], none⟩)

include same

theorem ofMutation_create (selector : Selector Task) (dryRun : Bool) :
    Request.ofMutation Task.schema.catalog query selector dryRun =
      Request.ofMutation Task.schema.catalog
        (Call.query ⟨"create", [⟨some "title", title⟩], none⟩) selector dryRun := by
  have alike := same.trans (Call.call_query _).symm
  rw [Request.ofMutation, Request.ofRead_congr Task.schema.catalog alike selector]
  rfl

theorem requestedFields_create : query.requestedFields = [] := by
  rw [query.requestedFields_eq_requested, same]
  rfl

theorem create_admitted (options : MutationOptions) :
    ∃ mutation, Task.schema.Admits options query mutation
      ∧ mutation.handler = Task.createTask := by
  have name : query.operation.text = "create" := congrArg Call.operation same
  refine ⟨_, ⟨by rw [name]; rfl, ?_, ?_, ?_⟩, rfl⟩
  · intro destructive
    cases destructive
  · intro field asked
    rw [requestedFields_create same] at asked
    cases asked
  · intro metadata declared selector
    cases declared
    rw [ofMutation_create same]
    rfl

theorem createTask_run (selector : Selector Task) (store : TaskStore) :
    ∃ log, (Task.createTask
        (Request.ofMutation Task.schema.catalog query selector false)).run store =
      ⟨.ok (.item (store.taskOf ⟨title.text, .todo, "", .medium⟩)),
        store.add ⟨title.text, .todo, "", .medium⟩, log⟩ := by
  rw [ofMutation_create same]
  exact ⟨_, rfl⟩

end Witness

theorem mutate_gated_tasks :
    let source := "create(title=x); delete(task-1)"
    let options : MutationOptions := ⟨false, false⟩
    let store := TaskStore.withSampleTasks
    let proposal : Task.Proposal := ⟨"x", .todo, "", .medium⟩
    ∃ batch creation deletion refusal, Batch.parse source = .ok batch
      ∧ batch.queries[0]? = some creation ∧ batch.queries[1]? = some deletion
      ∧ Task.schema.Invokes options creation store
      ∧ (Task.schema.runBatch (.mutate options) (batch.take 1) store).state = store.add proposal
      ∧ Task.schema.slotAt options source store 0 = some
        (.record ["id", "name", "status"] [.string "task-9", .string "x", .string "todo"])
      ∧ ¬ Task.schema.Invokes options deletion (store.add proposal)
      ∧ (Task.schema.runBatch (.mutate options) (batch.take 2) store).state = store.add proposal
      ∧ Task.schema.slotAt options source store 1 = some refusal
      ∧ Task.schema.slotAt ⟨false, true⟩ "delete(task-9, dry_run=yes) \x7b nothing \x7d" store 0 =
        some refusal := by
  have built : (Draft.empty.registerAll Task.registrations).build = .ok Task.schema := rfl
  obtain ⟨batch, parsed, calls⟩ : ∃ batch,
      Batch.parse "create(title=x); delete(task-1)" = .ok batch ∧ batch.calls =
        [⟨"create", [⟨some "title", .word "x"⟩], none⟩,
          ⟨"delete", [⟨none, .word "task-1"⟩], none⟩] :=
    Batch.parse_of_calls (by decide +kernel)
  obtain ⟨other, otherParsed, otherCalls⟩ : ∃ batch,
      Batch.parse "delete(task-9, dry_run=yes) \x7b nothing \x7d" = .ok batch ∧ batch.calls =
        [⟨"delete", [⟨none, .word "task-9"⟩, ⟨some "dry_run", .word "yes"⟩], some ["nothing"]⟩] :=
    Batch.parse_of_calls (by decide +kernel)
  obtain ⟨creation, first, creationCall⟩ := Batch.query_of_calls calls 0 rfl
  obtain ⟨deletion, second, deletionCall⟩ := Batch.query_of_calls calls 1 rfl
  obtain ⟨query, located, queryCall⟩ := Batch.query_of_calls otherCalls 0 rfl
  have name : deletion.operation.text = "delete" := congrArg Call.operation deletionCall
  have otherName : query.operation.text = "delete" := congrArg Call.operation queryCall
  obtain ⟨mutation, known, destructive⟩ :
      ∃ mutation, Task.schema.mutations.get? deletion.operation.text = some mutation
        ∧ mutation.isDestructive = true := by
    rw [name]
    exact ⟨_, rfl, rfl⟩
  have numbered : TaskStore.idOf TaskStore.withSampleTasks.nextId = "task-9" := by decide
  intro source options store proposal
  obtain ⟨creator, admits, handler⟩ := create_admitted creationCall options
  obtain ⟨made, answer, invoked, runs, -⟩ := mutate_gated built options parsed store first
  obtain ⟨selector, resolved, shown, added⟩ :
      ∃ selector, Task.schema.selector creation.requestedFields = .ok selector ∧
        let request := Request.ofMutation Task.schema.catalog creation selector false
        let ran := (creator.handler request).run store
        made = .ofResult (ran.answer.map selector.project)
          ∧ (Task.schema.runBatch (.mutate options) (batch.take 1) store).state = ran.state :=
    runs creator admits
  obtain ⟨log, ran⟩ := createTask_run creationCall selector store
  rw [handler, ran] at shown added
  rw [requestedFields_create creationCall] at resolved
  cases resolved
  have created : made = .record ["id", "name", "status"]
      [.string "task-9", .string "x", .string "todo"] := by
    rw [shown, ← numbered]
    rfl
  obtain ⟨refusal, result, admitted, _, stopped, gated⟩ :=
    mutate_gated built options parsed store second
  obtain ⟨barred, same⟩ := gated mutation known destructive rfl
  have unchanged := (stopped (mt admitted.mpr barred)).1.trans added
  rw [added] at barred
  exact ⟨batch, creation, deletion, refusal, parsed, first, second, invoked.mpr ⟨creator, admits⟩,
    added, answer.trans (congrArg some created), barred, unchanged, result,
    same ⟨false, true⟩ _ other store 0 query rfl otherParsed located (otherName.trans name.symm)⟩

end Registry

end Inquiry
