import Inquiry.Outcome.Rendering
import Inquiry.Query.Reading
import Inquiry.Request.Validation

set_option autoImplicit false

namespace Inquiry

structure MutationOptions where
  confirmed : Bool
  dryRun : Bool
deriving DecidableEq

def MutationOptions.inspect (options : MutationOptions) : String :=
  let confirmed := Json.renderBool options.confirmed
  let dryRun := Json.renderBool options.dryRun
  s!"MutationOptions \x7b confirmed: {confirmed}, dry_run: {dryRun} \x7d"

inductive Purpose where
  | read
  | mutate (options : MutationOptions)
deriving DecidableEq

def Purpose.inspect : Purpose → String
  | read => "Read"
  | mutate options => s!"Mutation({options.inspect})"

namespace Registry

variable {σ ι : Type}

def runHandler (handler : Handler σ ι) (request : Request σ ι) : Action σ Slot := do
  let output ← handler request
  return request.selector.project output

def findOperation (schema : Schema σ ι) (name : String) :
    Except Failure (Operation (Handler σ ι)) :=
  match schema.operations.get? name with
  | some operation => .ok operation
  | none => .error (.unknownOperation name)

def findMutation (schema : Schema σ ι) (name : String) :
    Except Failure (Mutation (Handler σ ι)) :=
  match schema.mutations.get? name with
  | some mutation => .ok mutation
  | none => .error (.unknownMutation name)

def runRead (schema : Schema σ ι) (query : Query) : Action σ Slot := do
  let operation ← schema.findOperation query.operation.text
  let selector ← schema.selector query.requestedFields
  runHandler operation.handler (.ofRead schema.catalog query selector)

def requireConfirmation (name : String) (mutation : Mutation (Handler σ ι))
    (options : MutationOptions) : Action σ Unit := do
  if mutation.isDestructive && !options.confirmed then
    Action.note .warn s!"refusing destructive mutation `{name}` without confirmation"
    throw (.unconfirmed name)

def mutationRequest (schema : Schema σ ι) (mutation : Mutation (Handler σ ι)) (query : Query)
    (options : MutationOptions) : Except Failure (Request σ ι) := do
  let selector ← schema.selector query.requestedFields
  let request := Request.ofMutation schema.catalog query selector options.dryRun
  match mutation.metadata with
  | some metadata => request.validate metadata.parameters
  | none => pure ()
  return request

def runMutation (schema : Schema σ ι) (options : MutationOptions) (query : Query) :
    Action σ Slot := do
  let name := query.operation.text
  let mutation ← schema.findMutation name
  requireConfirmation name mutation options
  let request ← schema.mutationRequest mutation query options
  runHandler mutation.handler request

def runQuery (schema : Schema σ ι) (purpose : Purpose) (query : Query) : Action σ Slot :=
  match purpose with
  | .read => schema.runRead query
  | .mutate options => schema.runMutation options query

def fillSlot (schema : Schema σ ι) (purpose : Purpose) (query : Query) : Effect σ Slot := do
  let result ← (schema.runQuery purpose query).run
  let slot := Slot.ofResult result
  let place := query.span.start.display
  Effect.note .trace s!"query `{query.operation.text}` at {place} -> {slot.status}"
  return slot

def fillSlots (schema : Schema σ ι) (purpose : Purpose) (queries : List Query) :
    Effect σ (List Slot) :=
  queries.mapM (schema.fillSlot purpose)

def runBatch (schema : Schema σ ι) (purpose : Purpose) (batch : Batch) : Effect σ Outcome := do
  let ending := if batch.isSingle then "y" else "ies"
  Effect.note .debug s!"executing batch of {batch.length} {purpose.inspect} quer{ending}"
  let slots ← schema.fillSlots purpose batch.queries
  return .ofSlots slots

def runSource (schema : Schema σ ι) (purpose : Purpose) (source : String) :
    Effect σ (Except ParseError Outcome) :=
  match Batch.parse source with
  | .ok batch => do
    let outcome ← schema.runBatch purpose batch
    return .ok outcome
  | .error error => return .error error

def execute (schema : Schema σ ι) (source : String) : Effect σ (Except ParseError Outcome) :=
  schema.runSource .read source

def mutate (schema : Schema σ ι) (options : MutationOptions) (source : String) :
    Effect σ (Except ParseError Outcome) :=
  schema.runSource (.mutate options) source

def executeRendered (schema : Schema σ ι) (source : String) (mode : OutputMode) :
    Effect σ String := do
  let result ← schema.execute source
  return renderResult mode result

def mutateRendered (schema : Schema σ ι) (options : MutationOptions) (source : String)
    (mode : OutputMode) : Effect σ String := do
  let result ← schema.mutate options source
  return renderResult mode result

end Registry

end Inquiry
