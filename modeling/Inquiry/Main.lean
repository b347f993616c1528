import Inquiry.CommandLine.Command

set_option autoImplicit false

namespace Inquiry.CommandLine

def usage : String :=
  "Usage: tasks [-v] <COMMAND>\n\n"
    ++ "Commands:\n"
    ++ "  q <QUERY> --format <FORMAT>\n"
    ++ "  m <MUTATION> --format <FORMAT> [--confirm] [--dry-run]\n"
    ++ "  schema [--compact-json]\n"
    ++ "  help\n\n"
    ++ "Formats: json, structured, compact, llm"

def UsageError.message : UsageError → String
  | missingRequired => "a required argument is missing"
  | unknownArgument => "unexpected argument"
  | badValue => "invalid value for an option"
  | missingValue => "an option lacks its value"
  | repeated => "an option is given more than once"
  | unexpectedValue => "a flag takes no value"
  | unknownCommand => "unrecognized command"
  | helpRequested => usage
  | versionRequested => "0.1.0"

def isShown (verbose : Bool) (entry : LogRecord) : Bool :=
  match entry.level with
  | .warn => true
  | .debug => verbose
  | .trace => false

def run (arguments : List String) : IO UInt32 := do
  match parse arguments with
  | .error .helpRequested =>
    IO.println usage
    return 0
  | .error .versionRequested =>
    IO.println UsageError.versionRequested.message
    return 0
  | .error error =>
    IO.eprintln s!"error: {error.message}\n\n{usage}"
    return 2
  | .ok ⟨_, none⟩ =>
    IO.println usage
    return 0
  | .ok ⟨verbose, some command⟩ =>
    let ran := command.run TaskStore.withSampleTasks
    for entry in ran.log.filter (isShown verbose) do
      IO.eprintln entry.display
    for text in ran.answer.stdout do
      IO.println text
    for text in ran.answer.stderr do
      IO.eprintln text
    return if ran.answer.success then 0 else 1

end Inquiry.CommandLine

def main (arguments : List String) : IO UInt32 := Inquiry.CommandLine.run arguments
