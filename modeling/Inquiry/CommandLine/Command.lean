import Inquiry.CommandLine.Arguments
import Inquiry.Task.Schema

set_option autoImplicit false

namespace Inquiry.CommandLine

structure CommandResult where
  success : Bool
  stdout : Option String
  stderr : Option String
deriving DecidableEq

def dropNewlines : List Char → List Char
  | [] => []
  | char :: rest =>
    match char, dropNewlines rest with
    | '\n', [] => []
    | _, kept => char :: kept

def withoutFinalNewlines (text : String) : String := String.ofList (dropNewlines text.toList)

namespace CommandResult

def rendered (text : String) (success : Bool) : CommandResult :=
  ⟨success, some (withoutFinalNewlines text), none⟩

def printed (text : String) : CommandResult := ⟨true, some text, none⟩

def ofResult (mode : OutputMode) (result : Except ParseError Outcome) : CommandResult :=
  match result with
  | .ok outcome => rendered (outcome.render mode) !outcome.hasFailures
  | .error error => rendered error.render false

end CommandResult

def finish (mode : OutputMode) (result : Except ParseError Outcome) :
    Effect TaskStore CommandResult := do
  match result with
  | .ok _ => pure ()
  | .error error => Effect.note .debug error.oneLine
  return CommandResult.ofResult mode result

namespace Command

def run : Command → Effect TaskStore CommandResult
  | query source mode => do
    Effect.note .debug s!"Running {Text.quoted source} with {mode.name} output."
    let result ← Task.schema.execute source
    finish mode result
  | mutate source mode options => do
    Effect.note .debug s!"Running {Text.quoted source} with {options.inspect}."
    let result ← Task.schema.mutate options source
    finish mode result
  | describe oneLine =>
    let document := Task.schema.introspect
    return .printed (if oneLine then document.render else document.renderIndented)

end Command

end Inquiry.CommandLine
