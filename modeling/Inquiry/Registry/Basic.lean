import Inquiry.Effect
import Inquiry.Pipeline.Predicate
import Inquiry.Pipeline.Sort
import Inquiry.Registry.Metadata

/-!
The registry of a schema: everything that queries can name. It is generic in the host state `σ`,
in the elements `ι` and in what stands for a handler, `η`; with `Unit` for a handler it is the
catalogue that handlers themselves may consult.
-/

set_option autoImplicit false

namespace Inquiry

structure Operation (η : Type) where
  handler : η
  metadata : Option Metadata

structure Mutation (η : Type) where
  handler : η
  metadata : Option MutationMetadata

/-- A mutation without metadata is not destructive. -/
def Mutation.isDestructive {η : Type} (mutation : Mutation η) : Bool :=
  mutation.metadata.any fun metadata => metadata.destructive

structure Registry (σ ι η : Type) where
  fields : Entries (ι → Json)
  presets : Entries (List String)
  /-- The columns of a query that lists no fields, presets already expanded. -/
  defaultFields : List String
  filters : Entries (ι → String)
  orders : Entries (ι → ι → Ordering)
  operations : Entries (Operation η)
  mutations : Entries (Mutation η)
  loader : Option (Action σ (List ι))

abbrev Catalog (σ ι : Type) := Registry σ ι Unit

namespace Registry

variable {σ ι η : Type}

def catalog (registry : Registry σ ι η) : Catalog σ ι :=
  { registry with
    operations := registry.operations.map fun (name, operation) => (name, ⟨(), operation.metadata⟩)
    mutations := registry.mutations.map fun (name, mutation) => (name, ⟨(), mutation.metadata⟩) }

def load (registry : Registry σ ι η) : Action σ (List ι) :=
  match registry.loader with
  | some loader => loader
  | none => throw .noLoader

def predicate (registry : Registry σ ι η) (params : List (String × String)) : Predicate ι :=
  ⟨params.filterMap fun (key, value) =>
    (registry.filters.get? key).map fun read => (read, value)⟩

def sortStep (registry : Registry σ ι η) (spec : SortSpec) : Except Failure (SortStep ι) :=
  match registry.orders.get? spec.field with
  | some compare => .ok (compare, spec.direction)
  | none => .error (.notSortable spec.field)

def sort (registry : Registry σ ι η) (specs : List SortSpec) (items : List ι) :
    Except Failure (List ι) := do
  let steps ← specs.mapM registry.sortStep
  return sortBySteps steps items

end Registry

end Inquiry
