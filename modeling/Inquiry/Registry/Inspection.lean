import Inquiry.Json.Printer
import Inquiry.Registry.Selector

set_option autoImplicit false

namespace Inquiry

namespace Inspection

def list (parts : List String) : String := "[" ++ ", ".intercalate parts ++ "]"

def texts (values : List String) : String := list (values.map Text.quoted)

def map (entries : List (String × String)) : String :=
  "\x7b" ++ ", ".intercalate (entries.map fun (key, value) => s!"{Text.quoted key}: {value}")
    ++ "\x7d"

def record (name : String) (fields : List (String × String)) (cut : Bool) : String :=
  let shown := fields.map fun (field, value) => s!"{field}: {value}"
  let parts := if cut then shown ++ [".."] else shown
  name ++ " \x7b " ++ ", ".intercalate parts ++ " \x7d"

def option (value? : Option String) : String :=
  match value? with
  | some value => s!"Some({value})"
  | none => "None"

end Inspection

mutual

def Json.inspect : Json → String
  | .null => "Null"
  | .bool value => s!"Bool({Json.renderBool value})"
  | .number value => s!"Number({value})"
  | .decimal numeral => s!"Number({numeral.text})"
  | .string text => s!"String({Text.quoted text})"
  | .array items => "Array " ++ Inspection.list (Json.inspectItems items)
  | .object entries => "Object " ++ Inspection.map (Json.inspectEntries entries)

def Json.inspectItems : List Json → List String
  | [] => []
  | item :: rest => item.inspect :: Json.inspectItems rest

def Json.inspectEntries : List (String × Json) → List (String × String)
  | [] => []
  | (key, value) :: rest => (key, value.inspect) :: Json.inspectEntries rest

end

open Inspection

def Parameter.inspect (parameter : Parameter) : String :=
  record "ParameterDef"
    [("name", Text.quoted parameter.name), ("type_name", Text.quoted parameter.type),
      ("required", Json.renderBool parameter.required),
      ("default", option (parameter.default.map Json.inspect)),
      ("description", Text.quoted parameter.description),
      ("enum_values", texts parameter.allowed)] false

def Metadata.inspectFields (metadata : Metadata) : List (String × String) :=
  [("description", Text.quoted metadata.description),
    ("parameters", list (metadata.parameters.map Parameter.inspect)),
    ("examples", texts metadata.examples)]

def Metadata.inspect (metadata : Metadata) : String :=
  record "OperationMetadata" metadata.inspectFields false

def MutationMetadata.inspect (metadata : MutationMetadata) : String :=
  record "MutationMetadata"
    (metadata.inspectFields ++ [("destructive", Json.renderBool metadata.destructive),
      ("idempotent", Json.renderBool metadata.idempotent)]) false

def Operation.inspect {η : Type} (operation : Operation η) (name : String) : String :=
  record "OperationDef" [("name", Text.quoted name),
    ("metadata", option (operation.metadata.map Metadata.inspect))] true

def Mutation.inspect {η : Type} (mutation : Mutation η) (name : String) : String :=
  record "MutationDef" [("name", Text.quoted name),
    ("metadata", option (mutation.metadata.map MutationMetadata.inspect))] true

def Registry.inspect {σ ι η : Type} (registry : Registry σ ι η) : String :=
  record "Schema" [("fields", texts registry.fields.keys),
    ("presets", map (registry.presets.map fun (name, fields) => (name, texts fields))),
    ("default_fields", texts registry.defaultFields),
    ("filterable_fields", texts registry.filters.keys),
    ("sortable_fields", texts registry.orders.keys),
    ("operations", texts registry.operations.keys),
    ("mutations", texts registry.mutations.keys),
    ("has_loader", Json.renderBool registry.loader.isSome)] false

def Selector.inspect {ι : Type} (selector : Selector ι) : String := texts selector.fields

def Predicate.inspect {ι : Type} (predicate : Predicate ι) : String :=
  record "Predicate" [("values", texts (predicate.conditions.map Prod.snd))] false

end Inquiry
