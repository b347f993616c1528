import Inquiry.Outcome.Compact
import Inquiry.Text.Lowercase

set_option autoImplicit false

namespace Inquiry

inductive OutputMode where
  | structured
  | compact
deriving DecidableEq

namespace OutputMode

def parse? (text : String) : Option OutputMode :=
  if ["json", "structured"].any (Text.equalIgnoringAsciiCase text) then some structured
  else if ["compact", "llm"].any (Text.equalIgnoringAsciiCase text) then some compact
  else none

def name : OutputMode → String
  | structured => "json"
  | compact => "compact"

def unknownMessage (text : String) : String :=
  s!"unknown output mode {Text.quoted text}: expected one of json, structured, compact, llm"

end OutputMode

def Outcome.render (outcome : Outcome) : OutputMode → String
  | .structured => outcome.renderStructured
  | .compact => outcome.renderCompact?.getD outcome.renderStructured

def renderResult (mode : OutputMode) : Except ParseError Outcome → String
  | .ok outcome => outcome.render mode
  | .error error => error.render

end Inquiry
