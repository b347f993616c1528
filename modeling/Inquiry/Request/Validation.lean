import Inquiry.Request

set_option autoImplicit false

namespace Inquiry

inductive ViolationKind where
  | missing
  | notAllowed (value : String)

structure Violation where
  parameter : Parameter
  kind : ViolationKind

namespace Violation

def code (violation : Violation) : FailureCode :=
  match violation.kind with
  | .missing => .required
  | .notAllowed _ => .invalidValue

def message (violation : Violation) : String :=
  let parameter := violation.parameter
  match violation.kind with
  | .missing => Failure.missingMessage parameter.name
  | .notAllowed value =>
    let choices := ", ".intercalate parameter.allowed
    s!"invalid value {Text.quoted value} for {parameter.name}, must be one of: {choices}"

def toJson (violation : Violation) : Json :=
  .object [("field", .string violation.parameter.name),
    ("code", .string violation.code.wireName), ("message", .string violation.message)]

end Violation

namespace Request

variable {σ ι : Type}

/-- Some positional argument has text. It then stands for every required parameter. -/
def hasPositionalText (request : Request σ ι) : Bool :=
  request.positional.any fun text => !text.isEmpty

def violation? (request : Request σ ι) (parameter : Parameter) : Option Violation :=
  match request.arg? parameter.name with
  | none =>
    if parameter.required && !request.hasPositionalText then some ⟨parameter, .missing⟩ else none
  | some value =>
    if parameter.allowed.isEmpty
      || parameter.allowed.any (fun choice => Text.equalIgnoringCase choice value) then none
    else some ⟨parameter, .notAllowed value⟩

def violationFailure (first : Violation) (rest : List Violation) : Failure :=
  let violations := first :: rest
  (Failure.of first.code ("; ".intercalate (violations.map Violation.message))).withDetail
    "errors" (.array (violations.map Violation.toJson))

def validate (request : Request σ ι) (parameters : List Parameter) : Except Failure Unit :=
  match parameters.filterMap request.violation? with
  | [] => .ok ()
  | first :: rest => .error (violationFailure first rest)

end Request

end Inquiry
