import Inquiry.Execution

/-!
Command-line arguments. The command `q` runs read queries, `m` runs mutations and `schema` prints
the self-description.

Arguments are read one after another. An option that takes a value waits for it, and the option is
settled only when the next argument shows that nothing more belongs to it; a fault in its value
comes up then.
-/

set_option autoImplicit false

namespace Inquiry.CommandLine

/-- Why arguments are refused. A call for help or for the version ends the reading, too. -/
inductive UsageError where
  | missingRequired
  | unknownArgument
  | badValue
  | missingValue
  | repeated
  | unexpectedValue
  | unknownCommand
  | helpRequested
  | versionRequested
deriving DecidableEq

inductive Flag where
  | verbose
  | confirm
  | dryRun
  | compactJson
deriving DecidableEq

inductive Switch where
  | flag (flag : Flag)
  | format
  | help
  | version
deriving DecidableEq

structure Form where
  long : String → Option Switch
  short : Char → Option Switch
  takesSource : Bool

namespace Form

def helpOnly : String → Option Switch
  | "help" => some .help
  | _ => none

def top : Form where
  long
    | "verbose" => some (.flag .verbose)
    | "version" => some .version
    | name => helpOnly name
  short
    | 'v' => some (.flag .verbose)
    | 'V' => some .version
    | 'h' => some .help
    | _ => none
  takesSource := false

def queryShort : Char → Option Switch
  | 'f' => some .format
  | 'h' => some .help
  | _ => none

def query : Form where
  long
    | "format" => some .format
    | name => helpOnly name
  short := queryShort
  takesSource := true

def mutation : Form where
  long
    | "format" => some .format
    | "confirm" => some (.flag .confirm)
    | "dry-run" => some (.flag .dryRun)
    | name => helpOnly name
  short := queryShort
  takesSource := true

def describe : Form where
  long
    | "compact-json" => some (.flag .compactJson)
    | name => helpOnly name
  short
    | 'h' => some .help
    | _ => none
  takesSource := false

end Form

/-- An option whose value is awaited, or has come but is not settled. -/
inductive Pending where
  | nothing
  | awaiting
  | value (text : String)
deriving DecidableEq

structure Scan where
  flags : List Flag
  format : Option OutputMode
  source : Option String
  pending : Pending
  positionalOnly : Bool

namespace Scan

def start : Scan := ⟨[], none, none, .nothing, false⟩

def setFormat (scan : Scan) (text : String) : Except UsageError Scan :=
  if scan.format.isSome then .error .repeated
  else
    match OutputMode.parse? text with
    | some mode => .ok { scan with format := some mode }
    | none => .error .badValue

def settle (scan : Scan) : Except UsageError Scan :=
  match scan.pending with
  | .nothing => .ok scan
  | .awaiting => .error .missingValue
  | .value text => { scan with pending := .nothing }.setFormat text

def setFlag (scan : Scan) (flag : Flag) : Except UsageError Scan :=
  if flag ∈ scan.flags then .error .repeated
  else .ok { scan with flags := scan.flags ++ [flag] }

def takeSwitch (scan : Scan) (switch : Switch) : Except UsageError Scan := do
  let settled ← scan.settle
  match switch with
  | .flag flag => settled.setFlag flag
  | .format => return { settled with pending := .awaiting }
  | .help => throw .helpRequested
  | .version => throw .versionRequested

def takeFormat (scan : Scan) (value : String) : Except UsageError Scan := do
  let settled ← scan.settle
  settled.setFormat value

def takeLong (scan : Scan) (form : Form) (name : String) (value? : Option String) :
    Except UsageError Scan :=
  match form.long name, value? with
  | none, _ => .error .unknownArgument
  | some switch, none => scan.takeSwitch switch
  | some .format, some value => scan.takeFormat value
  | some _, some _ => .error .unexpectedValue

def takeShort (scan : Scan) (form : Form) : List Char → Except UsageError Scan
  | [] => .ok scan
  | letter :: rest =>
    match form.short letter with
    | none => .error .unknownArgument
    | some .format =>
      match rest with
      | [] => scan.takeSwitch .format
      | '=' :: value => scan.takeFormat (String.ofList value)
      | value => scan.takeFormat (String.ofList value)
    | some switch =>
      match scan.takeSwitch switch with
      | .ok next => next.takeShort form rest
      | .error error => .error error

def takePositional (scan : Scan) (form : Form) (text : String) : Except UsageError Scan :=
  if form.takesSource && scan.source.isNone then do
    let settled ← scan.settle
    return { settled with source := some text }
  else .error .unknownArgument

def splitAtEquals (text : List Char) : String × Option String :=
  match text.dropWhile (· != '=') with
  | [] => (String.ofList text, none)
  | _ :: value => (String.ofList (text.takeWhile (· != '=')), some (String.ofList value))

inductive Look where
  | separator
  | long (name : String) (value : Option String)
  | short (letters : List Char)
  | plain

def look (argument : String) : Look :=
  match argument.toList with
  | ['-', '-'] => .separator
  | '-' :: '-' :: rest => let (name, value) := splitAtEquals rest; .long name value
  | '-' :: letter :: rest => .short (letter :: rest)
  | _ => .plain

def step (form : Form) (scan : Scan) (argument : String) : Except UsageError Scan :=
  if scan.positionalOnly then scan.takePositional form argument
  else
    match look argument with
    | .separator => .ok { scan with positionalOnly := true }
    | .long name value => scan.takeLong form name value
    | .short letters => scan.takeShort form letters
    | .plain =>
      if scan.pending = .awaiting then .ok { scan with pending := .value argument }
      else scan.takePositional form argument

def run (form : Form) (arguments : List String) : Except UsageError Scan := do
  let scanned ← arguments.foldlM (step form) start
  scanned.settle

end Scan

inductive Command where
  | query (source : String) (mode : OutputMode)
  | mutate (source : String) (mode : OutputMode) (options : MutationOptions)
  | describe (oneLine : Bool)
deriving DecidableEq

def Scan.required (scan : Scan) : Except UsageError (String × OutputMode) :=
  match scan.source, scan.format with
  | some source, some mode => .ok (source, mode)
  | _, _ => .error .missingRequired

def readQuery (arguments : List String) : Except UsageError Command := do
  let scanned ← Scan.run .query arguments
  let (source, mode) ← scanned.required
  return .query source mode

def readMutation (arguments : List String) : Except UsageError Command := do
  let scanned ← Scan.run .mutation arguments
  let (source, mode) ← scanned.required
  return .mutate source mode ⟨scanned.flags.contains .confirm, scanned.flags.contains .dryRun⟩

def readDescribe (arguments : List String) : Except UsageError Command := do
  let scanned ← Scan.run .describe arguments
  return .describe (scanned.flags.contains .compactJson)

def commandNamed? (name : String) : Option (List String → Except UsageError Command) :=
  match name with
  | "q" => some readQuery
  | "m" => some readMutation
  | "schema" => some readDescribe
  | "help" => some fun arguments =>
    match arguments with
    | [] => .error .helpRequested
    | [topic] =>
      if topic ∈ ["q", "m", "schema", "help"] then .error .helpRequested
      else .error .unknownCommand
    | _ => .error .unknownCommand
  | _ => none

structure Invocation where
  verbose : Bool
  command : Option Command
deriving DecidableEq

def Scan.readTop (scan : Scan) : List String → Except UsageError Invocation
  | [] => .ok ⟨scan.flags.contains .verbose, none⟩
  | argument :: rest =>
    match commandNamed? argument, scan.positionalOnly with
    | some read, false => do
      let command ← read rest
      return ⟨scan.flags.contains .verbose, some command⟩
    | some _, true => .error .unknownArgument
    | none, true => .error .unknownCommand
    | none, false =>
      match look argument with
      | .plain => .error .unknownCommand
      | _ =>
        match scan.step .top argument with
        | .ok next => next.readTop rest
        | .error error => .error error

def parse (arguments : List String) : Except UsageError Invocation := Scan.start.readTop arguments

end Inquiry.CommandLine
