import Inquiry.Json
import Inquiry.Query

set_option autoImplicit false

namespace Inquiry

def Position.toJson (position : Position) : Json :=
  .object [("line", .ofNat position.line), ("column", .ofNat position.column),
    ("byte_offset", .ofNat position.offset)]

def Span.toJson (span : Span) : Json :=
  .object [("start_inclusive", span.start.toJson), ("end_exclusive", span.stop.toJson)]

def Name.toJson (name : Name) : Json :=
  .object [("value", .string name.text), ("span", name.span.toJson)]

def Value.toJson : Value → Json
  | word text => .object [("kind", .string "identifier"), ("value", .string text)]
  | literal text => .object [("kind", .string "string"), ("value", .string text)]

def Param.toJson (param : Param) : Json :=
  .object [("key", .ofOption (param.key.map Name.toJson)), ("value", param.value.toJson),
    ("span", param.span.toJson)]

def FieldSpec.toJson (spec : FieldSpec) : Json :=
  .object [("names", .array (spec.names.map Name.toJson)), ("span", spec.span.toJson)]

def Query.toJson (query : Query) : Json :=
  .object [("operation", query.operation.toJson),
    ("params", .array (query.params.map Param.toJson)),
    ("field_spec", .ofOption (query.fields.map FieldSpec.toJson)), ("span", query.span.toJson)]

def Batch.toJson (batch : Batch) : Json :=
  .object [("queries", .array (batch.queries.map Query.toJson)), ("span", batch.span.toJson)]

end Inquiry
