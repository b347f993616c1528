import Inquiry.Json.Printer
import Inquiry.Outcome
import Inquiry.Query.ParseError

set_option autoImplicit false

namespace Inquiry

namespace ParseError

def payload (error : ParseError) : Json :=
  let details := Json.textEntry "got" error.got
    ++ (error.expected.map fun expected => ("expected", Json.string expected)).toList
  let position := Json.object [("offset", .ofNat error.position.offset),
    ("line", .ofNat error.position.displayLine), ("column", .ofNat error.position.displayColumn)]
  .object [("error", .object ([("code", .string FailureCode.parse.wireName),
      ("message", .string error.message)]
    ++ (if details.isEmpty then [] else [("details", .object details)])
    ++ [("position", position)]))]

def render (error : ParseError) : String := error.payload.render

end ParseError

namespace Outcome

def renderStructured (outcome : Outcome) : String := outcome.toJson.render

def renderIndented (outcome : Outcome) : String := outcome.toJson.renderIndented

end Outcome

end Inquiry
