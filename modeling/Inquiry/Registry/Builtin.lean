import Inquiry.Registry.Introspection
import Inquiry.Request

set_option autoImplicit false

namespace Inquiry

def schemaName : String := "schema"

def distinctName : String := "distinct"

namespace Failure

def distinctWithoutField : Failure :=
  of .validation "distinct requires a field name argument: distinct(field_name)"

def notFilterable (field : String) (available : List String) : Failure :=
  ((of .validation s!"unknown filterable field: {field}").withText "field" field).withDetail
    "available" (.ofStrings available)

end Failure

namespace Request

variable {σ ι : Type}

def distinctField (request : Request σ ι) : Except Failure String :=
  match request.positional? with
  | some field => .ok field
  | none =>
    match request.arg? "field" with
    | some field => .ok field
    | none => .error .distinctWithoutField

def filterAccessor (request : Request σ ι) (field : String) : Except Failure (ι → String) :=
  match request.catalog.filters.get? field with
  | some read => .ok read
  | none => .error (.notFilterable field request.catalog.filters.keys)

end Request

variable {σ ι : Type}

def describeSchema : Handler σ ι := fun request => return .metadata request.catalog.introspect

def listDistinct : Handler σ ι := fun request => do
  let field ← request.distinctField
  let read ← request.filterAccessor field
  let items ← request.items
  return .value (.ofStrings (distinctValues read (request.predicate.filter items)))

def schemaOperation : Operation (Handler σ ι) where
  handler := describeSchema
  metadata := some {
    description := "Describes the fields, presets, operations, mutations, filterable and sortable "
      ++ "fields of this schema."
    parameters := []
    examples := ["schema()"] }

def distinctOperation : Operation (Handler σ ι) where
  handler := listDistinct
  metadata := some {
    description := "Returns unique values for a filterable field."
    parameters := [{ Parameter.of "field" "string" "Name of a registered filterable field." with
      required := true }]
    examples := ["distinct(status)"] }

end Inquiry
