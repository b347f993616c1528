import Inquiry.Json
import Inquiry.Text.Quoted

set_option autoImplicit false

namespace Inquiry

inductive FailureCode where
  | parse
  | notFound
  | validation
  | forbidden
  | required
  | invalidValue
  | conflict
  | preconditionFailed
  | internal
deriving DecidableEq

def FailureCode.wireName : FailureCode → String
  | parse => "PARSE_ERROR"
  | notFound => "NOT_FOUND"
  | validation => "VALIDATION_ERROR"
  | forbidden => "FORBIDDEN"
  | required => "REQUIRED"
  | invalidValue => "INVALID_VALUE"
  | conflict => "CONFLICT"
  | preconditionFailed => "PRECONDITION_FAILED"
  | internal => "INTERNAL_ERROR"

structure Failure where
  code : FailureCode
  message : String
  details : List (String × Json)

namespace Failure

def of (code : FailureCode) (message : String) : Failure := ⟨code, message, []⟩

def withDetail (failure : Failure) (key : String) (value : Json) : Failure :=
  { failure with details := Entries.put failure.details key value }

def withText (failure : Failure) (key text : String) : Failure :=
  failure.withDetail key (.string text)

def display (failure : Failure) : String := s!"{failure.code.wireName}: {failure.message}"

def payload (failure : Failure) : Json :=
  let details := if failure.details.isEmpty then [] else [("details", .object failure.details)]
  .object [("error", .object ([("code", .string failure.code.wireName),
    ("message", .string failure.message)] ++ details))]

def unknownOperation (name : String) : Failure :=
  (of .notFound s!"unknown operation: {name}").withText "operation" name

def unknownMutation (name : String) : Failure :=
  (of .notFound s!"unknown mutation: {name}").withText "mutation" name

def unconfirmed (mutation : String) : Failure :=
  ((of .forbidden
      s!"mutation {Text.quoted mutation} is destructive and requires confirmation").withText
    "mutation" mutation).withDetail "destructive" (.bool true)

def unknownField (name : String) : Failure :=
  (of .validation s!"unknown field: {name}").withText "field" name

def notSortable (field : String) : Failure :=
  (of .validation s!"field {Text.quoted field} is not sortable").withText "field" field

def sortWithoutField (key : String) : Failure :=
  (of .validation "sort_ prefix requires a field name").withText "arg" key

def badSortDirection (field value : String) : Failure :=
  ((of .validation s!"sort direction must be 'asc' or 'desc', got {Text.quoted value}").withText
    "field" field).withText "value" value

def badCount (param value : String) : Failure :=
  ((of .validation s!"{param} must be a non-negative integer, got {Text.quoted value}").withText
    "param" param).withText "value" value

def missingPositional (operation what : String) : Failure :=
  (of .required s!"{operation} requires a {what} argument").withText "param" what

def missingMessage (param : String) : String :=
  s!"required parameter {Text.quoted param} is missing"

def missingParam (param : String) : Failure :=
  (of .required (missingMessage param)).withText "param" param

def noLoader : Failure := of .internal "no data loader registered on this schema"

end Failure

end Inquiry
