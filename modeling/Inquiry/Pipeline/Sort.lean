import Inquiry.Failure
import Inquiry.Text.Lowercase

set_option autoImplicit false

namespace Inquiry

inductive SortDirection where
  | ascending
  | descending
deriving DecidableEq

namespace SortDirection

def parse? (text : String) : Option SortDirection :=
  if text.isEmpty || Text.equalIgnoringAsciiCase text "asc" then some ascending
  else if Text.equalIgnoringAsciiCase text "desc" then some descending
  else none

def apply : SortDirection → Ordering → Ordering
  | ascending, ordering => ordering
  | descending, ordering => ordering.swap

def name : SortDirection → String
  | ascending => "asc"
  | descending => "desc"

end SortDirection

structure SortSpec where
  field : String
  direction : SortDirection
deriving DecidableEq

namespace SortSpec

def fieldOf? (key : String) : Option String :=
  let keyPrefix := "sort_".toList
  if keyPrefix.isPrefixOf key.toList then some (String.ofList (key.toList.drop keyPrefix.length))
  else none

def ofParam (key value : String) : Except Failure (Option SortSpec) :=
  match fieldOf? key with
  | none => .ok none
  | some field =>
    if field.isEmpty then .error (.sortWithoutField key)
    else
      match SortDirection.parse? value with
      | some direction => .ok (some ⟨field, direction⟩)
      | none => .error (.badSortDirection field value)

def ofParams : List (String × String) → Except Failure (List SortSpec)
  | [] => .ok []
  | (key, value) :: rest => do
    let spec? ← ofParam key value
    let specs ← ofParams rest
    return spec?.toList ++ specs

end SortSpec

variable {ι : Type}

abbrev SortStep (ι : Type) := (ι → ι → Ordering) × SortDirection

def chainOrder (steps : List (SortStep ι)) (left right : ι) : Ordering :=
  match steps with
  | [] => .eq
  | (compare, direction) :: rest =>
    (direction.apply (compare left right)).then (chainOrder rest left right)

/-- Sorts by a chain of directives; elements that tie keep their order. -/
def sortBySteps (steps : List (SortStep ι)) (items : List ι) : List ι :=
  items.mergeSort fun left right => (chainOrder steps left right).isLE

end Inquiry
