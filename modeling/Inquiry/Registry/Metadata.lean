import Inquiry.Json

set_option autoImplicit false

namespace Inquiry

structure Parameter where
  name : String
  type : String
  required : Bool
  default : Option Json
  description : String
  /-- The values allowed; if there are none, every value is. -/
  allowed : List String

def Parameter.of (name type description : String) : Parameter :=
  ⟨name, type, false, none, description, []⟩

structure Metadata where
  description : String
  parameters : List Parameter
  examples : List String

/-- A destructive mutation is refused unless the caller confirms it. That a mutation is idempotent
is for readers only. -/
structure MutationMetadata extends Metadata where
  destructive : Bool
  idempotent : Bool

def Parameter.toJson (parameter : Parameter) : Json :=
  .object ([("name", .string parameter.name), ("type", .string parameter.type),
      ("required", .bool parameter.required)]
    ++ (parameter.default.map fun value => ("default", value)).toList
    ++ Json.textEntry "description" parameter.description
    ++ Json.listEntry "enum" (parameter.allowed.map Json.string))

def Metadata.entries (metadata : Metadata) : List (String × Json) :=
  Json.textEntry "description" metadata.description
    ++ Json.listEntry "parameters" (metadata.parameters.map Parameter.toJson)
    ++ Json.listEntry "examples" (metadata.examples.map Json.string)

def Metadata.toJson (metadata : Metadata) : Json := .object metadata.entries

def MutationMetadata.toJson (metadata : MutationMetadata) : Json :=
  .object (metadata.entries ++ [("destructive", .bool metadata.destructive),
    ("idempotent", .bool metadata.idempotent)])

end Inquiry
