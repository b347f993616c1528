import Inquiry.Outcome
import Inquiry.Registry.Basic

set_option autoImplicit false

namespace Inquiry

inductive Output (ι : Type) where
  | item (item : ι)
  | items (items : List ι)
  | value (value : Json)
  | metadata (document : Json)

structure Selector (ι : Type) where
  columns : List (String × (ι → Json))

namespace Selector

variable {ι : Type}

def fields (selector : Selector ι) : List String := selector.columns.map Prod.fst

def includes (selector : Selector ι) (field : String) : Bool := selector.fields.contains field

def row (selector : Selector ι) (item : ι) : List Json :=
  selector.columns.map fun (_, read) => read item

def apply (selector : Selector ι) (item : ι) : Json :=
  .ofPairs (selector.columns.map fun (name, read) => (name, read item))

def project (selector : Selector ι) : Output ι → Slot
  | .item item => .record selector.fields (selector.row item)
  | .items items => .records selector.fields (items.map selector.row)
  | .value value => .value value
  | .metadata document => .metadata document

end Selector

namespace Registry

variable {σ ι η : Type}

def expand (registry : Registry σ ι η) (name : String) : Except Failure (List String) :=
  match registry.presets.get? name with
  | some fields => .ok fields
  | none => if registry.fields.has name then .ok [name] else .error (.unknownField name)

def column (registry : Registry σ ι η) (name : String) : Except Failure (String × (ι → Json)) :=
  match registry.fields.get? name with
  | some read => .ok (name, read)
  | none => .error (.unknownField name)

def resolve (registry : Registry σ ι η) (names : List String) : Except Failure (Selector ι) :=
  (names.eraseDups.mapM registry.column).map Selector.mk

def selector (registry : Registry σ ι η) (requested : List String) :
    Except Failure (Selector ι) := do
  if requested.isEmpty then registry.resolve registry.defaultFields
  else
    let expanded ← requested.mapM registry.expand
    registry.resolve expanded.flatten

end Registry

end Inquiry
