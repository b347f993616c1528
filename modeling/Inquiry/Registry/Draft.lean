import Inquiry.Registry.Builtin

set_option autoImplicit false

namespace Inquiry

inductive RegistrationError where
  | duplicateField (name : String)
  | duplicatePreset (name : String)
  | presetFieldCollision (name : String)
  | emptyPreset (preset : String)
  | presetUnknownField (preset field : String)
  | unknownDefaultField (field : String)
  | duplicateFilterable (name : String)
  | duplicateSortable (name : String)
  | duplicateOperation (name : String)
  | duplicateMutation (name : String)
deriving DecidableEq

def RegistrationError.message : RegistrationError → String
  | duplicateField name => s!"field `{name}` is registered more than once"
  | duplicatePreset name => s!"preset `{name}` is registered more than once"
  | presetFieldCollision name => s!"`{name}` cannot be both a field and a preset"
  | emptyPreset preset => s!"preset `{preset}` names no fields"
  | presetUnknownField preset field =>
    s!"preset `{preset}` references unregistered field `{field}`"
  | unknownDefaultField field =>
    s!"default field `{field}` is neither a registered field nor a preset"
  | duplicateFilterable name => s!"filterable field `{name}` is registered more than once"
  | duplicateSortable name => s!"sortable field `{name}` is registered more than once"
  | duplicateOperation name => s!"operation `{name}` is registered more than once"
  | duplicateMutation name => s!"mutation `{name}` is registered more than once"

inductive Registration (σ ι : Type) where
  | field (name : String) (read : ι → Json)
  | preset (name : String) (fields : List String)
  /-- The columns of a query that lists no fields. The last setting counts. -/
  | defaultFields (names : List String)
  | filterable (name : String) (read : ι → String)
  | sortable (name : String) (compare : ι → ι → Ordering)
  | operation (name : String) (handler : Handler σ ι) (metadata : Option Metadata)
  | mutation (name : String) (handler : Handler σ ι) (metadata : Option MutationMetadata)
  | loader (load : Action σ (List ι))

def Registration.sortableBy {σ ι κ : Type} [Ord κ] (name : String) (key : ι → κ) :
    Registration σ ι :=
  .sortable name fun left right => compare (key left) (key right)

structure Draft (σ ι : Type) where
  fields : Entries (ι → Json)
  presets : Entries (List String)
  defaultFields : Option (List String)
  filters : Entries (ι → String)
  orders : Entries (ι → ι → Ordering)
  operations : Entries (Operation (Handler σ ι))
  mutations : Entries (Mutation (Handler σ ι))
  loader : Option (Action σ (List ι))

namespace Draft

variable {σ ι : Type}

def empty : Draft σ ι := ⟨[], [], none, [], [], [], [], none⟩

def addField (draft : Draft σ ι) (name : String) (read : ι → Json) :
    Except RegistrationError (Draft σ ι) :=
  if draft.fields.has name then .error (.duplicateField name)
  else if draft.presets.has name then .error (.presetFieldCollision name)
  else .ok { draft with fields := draft.fields ++ [(name, read)] }

def addPreset (draft : Draft σ ι) (name : String) (fields : List String) :
    Except RegistrationError (Draft σ ι) :=
  if draft.presets.has name then .error (.duplicatePreset name)
  else if draft.fields.has name then .error (.presetFieldCollision name)
  else if fields.isEmpty then .error (.emptyPreset name)
  else
    match fields.find? fun field => !draft.fields.has field with
    | some unknown => .error (.presetUnknownField name unknown)
    | none => .ok { draft with presets := draft.presets ++ [(name, fields)] }

def register (draft : Draft σ ι) : Registration σ ι → Except RegistrationError (Draft σ ι)
  | .field name read => draft.addField name read
  | .preset name fields => draft.addPreset name fields
  | .defaultFields names => .ok { draft with defaultFields := some names }
  | .filterable name read =>
    if draft.filters.has name then .error (.duplicateFilterable name)
    else .ok { draft with filters := draft.filters ++ [(name, read)] }
  | .sortable name compare =>
    if draft.orders.has name then .error (.duplicateSortable name)
    else .ok { draft with orders := draft.orders ++ [(name, compare)] }
  | .operation name handler metadata =>
    if draft.operations.has name then .error (.duplicateOperation name)
    else .ok { draft with operations := draft.operations ++ [(name, ⟨handler, metadata⟩)] }
  | .mutation name handler metadata =>
    if draft.mutations.has name then .error (.duplicateMutation name)
    else .ok { draft with mutations := draft.mutations ++ [(name, ⟨handler, metadata⟩)] }
  | .loader load => .ok { draft with loader := some load }

def registerAll (draft : Draft σ ι) (registrations : List (Registration σ ι)) : Draft σ ι :=
  registrations.foldl
    (fun current registration =>
      match current.register registration with
      | .ok next => next
      | .error _ => current)
    draft

def expandDefault (draft : Draft σ ι) (name : String) : Except RegistrationError (List String) :=
  match draft.presets.get? name with
  | some fields => .ok fields
  | none => if draft.fields.has name then .ok [name] else .error (.unknownDefaultField name)

def resolveDefaults (draft : Draft σ ι) : Except RegistrationError (List String) :=
  match draft.defaultFields with
  | none => .ok draft.fields.keys
  | some names => do
    let expanded ← names.mapM draft.expandDefault
    return expanded.flatten.eraseDups

def allOperations (draft : Draft σ ι) : Entries (Operation (Handler σ ι)) :=
  let described :=
    if draft.operations.has schemaName then draft.operations
    else draft.operations ++ [(schemaName, schemaOperation)]
  if draft.filters.isEmpty || described.has distinctName then described
  else described ++ [(distinctName, distinctOperation)]

def build (draft : Draft σ ι) : Except RegistrationError (Schema σ ι) := do
  let defaultFields ← draft.resolveDefaults
  return {
    fields := draft.fields
    presets := draft.presets
    defaultFields
    filters := draft.filters
    orders := draft.orders
    operations := draft.allOperations
    mutations := draft.mutations
    loader := draft.loader }

end Draft

def Registry.ofRegistrations {σ ι : Type} (registrations : List (Registration σ ι)) :
    Except RegistrationError (Schema σ ι) := do
  let draft ← registrations.foldlM Draft.register Draft.empty
  draft.build

end Inquiry
