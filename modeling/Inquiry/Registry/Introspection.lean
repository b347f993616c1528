import Inquiry.Registry.Basic

set_option autoImplicit false

namespace Inquiry.Registry

variable {σ ι η : Type}

def sortedNames (names : List String) : List String :=
  names.mergeSort fun left right => left ≤ right

def documents {μ : Type} (names : List String) (metadata? : String → Option μ)
    (toJson : μ → Json) : Json :=
  .ofPairs (names.filterMap fun name => (metadata? name).map fun metadata => (name, toJson metadata))

def introspect (registry : Registry σ ι η) : Json :=
  let operations := sortedNames registry.operations.keys
  let mutations := sortedNames registry.mutations.keys
  let operationMetadata? := fun name =>
    (registry.operations.get? name).bind fun operation => operation.metadata
  let mutationMetadata? := fun name =>
    (registry.mutations.get? name).bind fun mutation => mutation.metadata
  .object [
    ("operations", .ofStrings operations),
    ("operationMetadata", documents operations operationMetadata? Metadata.toJson),
    ("mutations", .ofStrings mutations),
    ("mutationMetadata", documents mutations mutationMetadata? MutationMetadata.toJson),
    ("filterableFields", .ofStrings registry.filters.keys),
    ("sortableFields", .ofStrings registry.orders.keys),
    ("fields", .ofStrings registry.fields.keys),
    ("presets", .ofPairs (registry.presets.map fun (name, fields) => (name, .ofStrings fields))),
    ("defaultFields", .ofStrings registry.defaultFields)]

end Inquiry.Registry
