import Inquiry.Query

set_option autoImplicit false

namespace Inquiry

structure Argument where
  key : Option String
  value : Value
deriving DecidableEq

structure Call where
  operation : String
  arguments : List Argument
  fields : Option (List String)
deriving DecidableEq

def Param.argument (param : Param) : Argument := ⟨param.key.map Name.text, param.value⟩

def Query.call (query : Query) : Call :=
  ⟨query.operation.text, query.params.map Param.argument,
    query.fields.map fun spec => spec.names.map Name.text⟩

def Batch.calls (batch : Batch) : List Call := batch.queries.map Query.call

def Call.query (call : Call) : Query :=
  let nowhere := Span.emptyAt .origin
  let name := fun text => Name.mk text nowhere
  ⟨name call.operation,
    call.arguments.map fun argument => ⟨argument.key.map name, argument.value, nowhere⟩,
    call.fields.map fun names => ⟨names.map name, nowhere⟩, nowhere⟩

@[simp] theorem Call.call_query (call : Call) : call.query.call = call := by
  obtain ⟨operation, arguments, fields⟩ := call
  simp [query, Query.call, Param.argument, Function.comp_def]

theorem Batch.query_of_calls {batch : Batch} {calls : List Call} (same : batch.calls = calls)
    (index : Nat) {call : Call} (located : calls[index]? = some call) :
    ∃ query, batch.queries[index]? = some query ∧ query.call = call := by
  rw [← same, Batch.calls, List.getElem?_map] at located
  exact Option.map_eq_some_iff.mp located

theorem Batch.single_of_calls {batch : Batch} {call : Call} (same : batch.calls = [call]) :
    ∃ query, batch.queries = [query] ∧ query.call = call := by
  obtain ⟨query, only, sameCall⟩ := List.map_eq_singleton_iff.mp same
  exact ⟨query, only, sameCall⟩

namespace Call

def named (call : Call) : List (String × String) :=
  call.arguments.filterMap fun argument => argument.key.map fun key => (key, argument.value.text)

def positional (call : Call) : List String :=
  (call.arguments.filter fun argument => argument.key.isNone).map fun argument =>
    argument.value.text

def requested (call : Call) : List String := call.fields.getD []

end Call

structure Argument.WellFormed (valid : String → Prop) (argument : Argument) : Prop where
  key : ∀ key, argument.key = some key → valid key
  word : ∀ text, argument.value = .word text → valid text

structure Call.WellFormed (valid : String → Prop) (call : Call) : Prop where
  operation : valid call.operation
  arguments : ∀ argument ∈ call.arguments, argument.WellFormed valid
  nonempty : call.fields ≠ some []
  fields : ∀ name ∈ call.requested, valid name

def Argument.names (argument : Argument) : List String :=
  argument.key.toList ++
    match argument.value with
    | .word text => [text]
    | .literal _ => []

def Call.names (call : Call) : List String :=
  call.operation :: call.arguments.flatMap Argument.names ++ call.requested

theorem Argument.wellFormed_iff {valid : String → Prop} (argument : Argument) :
    argument.WellFormed valid ↔ ∀ name ∈ argument.names, valid name := by
  obtain ⟨key, value⟩ := argument
  constructor
  next =>
    intro wellFormed name member
    rcases List.mem_append.mp member with inKey | inValue
    · exact wellFormed.key name (Option.mem_toList.mp inKey)
    · cases value with
      | word text =>
        rw [List.mem_singleton.mp inValue]
        exact wellFormed.word text rfl
      | literal text => cases inValue
  next =>
    intro named
    constructor
    next =>
      intro key present
      exact named key (List.mem_append_left _ (Option.mem_toList.mpr present))
    next =>
      intro text same
      cases same
      exact named text (List.mem_append_right _ (List.mem_singleton.mpr rfl))

theorem Call.wellFormed_iff {valid : String → Prop} (call : Call) :
    call.WellFormed valid ↔ call.fields ≠ some [] ∧ ∀ name ∈ call.names, valid name := by
  constructor
  next =>
    intro wellFormed
    refine ⟨wellFormed.nonempty, ?_⟩
    intro name member
    rcases List.mem_append.mp member with inCall | inFields
    · rcases List.mem_cons.mp inCall with rfl | inArguments
      · exact wellFormed.operation
      · obtain ⟨argument, present, inArgument⟩ := List.mem_flatMap.mp inArguments
        exact argument.wellFormed_iff.mp (wellFormed.arguments argument present) name inArgument
    · exact wellFormed.fields name inFields
  next =>
    intro formed
    obtain ⟨nonempty, named⟩ := formed
    have inCall : ∀ name ∈ call.operation :: call.arguments.flatMap Argument.names, valid name :=
      fun name member => named name (List.mem_append_left _ member)
    obtain ⟨operation, inArguments⟩ := List.forall_mem_cons.mp inCall
    refine ⟨operation, ?_, nonempty, fun name member => named name (List.mem_append_right _ member)⟩
    intro argument present
    apply argument.wellFormed_iff.mpr
    intro name member
    exact inArguments name (List.mem_flatMap.mpr ⟨argument, present, member⟩)

instance {valid : String → Prop} [DecidablePred valid] (call : Call) :
    Decidable (call.WellFormed valid) := decidable_of_iff _ call.wellFormed_iff.symm

namespace Query

variable (query : Query)

theorem namedParams_eq_named : query.namedParams = query.call.named := by
  simp [namedParams, Call.named, call, Param.argument, List.filterMap_map, Function.comp_def]

theorem positionalParams_eq_positional : query.positionalParams = query.call.positional := by
  simp [positionalParams, Call.positional, call, Param.argument, List.filter_map, Function.comp_def]

theorem requestedFields_eq_requested : query.requestedFields = query.call.requested := by
  cases spec : query.fields <;> simp [requestedFields, Call.requested, call, spec]

end Query

end Inquiry
