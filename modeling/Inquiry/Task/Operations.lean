import Inquiry.Request
import Inquiry.Task.Store

set_option autoImplicit false

namespace Inquiry.Task

abbrev TaskHandler := Handler TaskStore Task

abbrev TaskRequest := Request TaskStore Task

def getTask : TaskHandler := fun request => do
  let id ← request.requirePositional "task ID"
  let tasks ← request.items
  match tasks.find? fun task => task.id = id with
  | some task => return .item task
  | none => throw (.taskNotFound id)

def listTasks : TaskHandler := fun request => do
  let tasks ← request.items
  let picked ← request.applyPipeline tasks
  return .items picked

def countTasks : TaskHandler := fun request => do
  let tasks ← request.items
  return .value (.object [("count", .ofNat (request.predicate.count tasks))])

def summarize (tasks : List Task) : Json :=
  let counts := Status.all.map fun status =>
    (status.name, Json.ofNat (tasks.countP fun task => task.status = status))
  .object [("total", .ofNat tasks.length), ("counts", .object counts)]

def summarizeTasks : TaskHandler := fun request => do
  let tasks ← request.items
  return .value (summarize tasks)

def variantArg {α : Type} (request : TaskRequest) (key : String) (parse? : String → Option α) :
    Except Failure (Option α) :=
  match request.arg? key with
  | none => .ok none
  | some text =>
    match parse? text with
    | some variant => .ok (some variant)
    | none => .error ((Failure.of .invalidValue (unknownVariant key text)).withText "param" key)

def proposalOf (request : TaskRequest) : Except Failure Proposal := do
  let title ← request.requireArg "title"
  let status ← variantArg request "status" Status.parse?
  let priority ← variantArg request "priority" Priority.parse?
  return ⟨title, status.getD .todo, request.argOr "assignee" "", priority.getD .medium⟩

def previewCreate (proposal : Proposal) : Json :=
  .object [("dry_run", .bool true), ("would_create", .object [
    ("title", .string proposal.title), ("status", .string proposal.status.name),
    ("assignee", .string proposal.assignee), ("priority", .string proposal.priority.name)])]

def createTask : TaskHandler := fun request => do
  let proposal ← proposalOf request
  if request.dryRun then return .value (previewCreate proposal)
  else
    let task ← TaskStore.create proposal
    return .item task

def changesOf (request : TaskRequest) : Except Failure Changes := do
  let status ← variantArg request "status" Status.parse?
  let priority ← variantArg request "priority" Priority.parse?
  return ⟨request.arg? "title", status, request.arg? "assignee", priority⟩

def Changes.toJson (changes : Changes) : Json :=
  let entry := fun (key : String) (value? : Option String) =>
    (value?.map fun value => (key, Json.string value)).toList
  .object (entry "title" changes.title ++ entry "status" (changes.status.map Status.name)
    ++ entry "assignee" changes.assignee ++ entry "priority" (changes.priority.map Priority.name))

def previewUpdate (id : String) (changes : Changes) : Json :=
  .object [("dry_run", .bool true), ("id", .string id), ("would_update", changes.toJson)]

def updateTask : TaskHandler := fun request => do
  let id ← request.requirePositional "task ID"
  let changes ← changesOf request
  if request.dryRun then
    let _ ← TaskStore.find id
    return .value (previewUpdate id changes)
  else
    let task ← TaskStore.update id changes
    return .item task

def previewDelete (task : Task) : Json :=
  .object [("dry_run", .bool true), ("would_delete", .object [
    ("id", .string task.id), ("title", .string task.title),
    ("status", .string task.status.name)])]

def reportDelete (task : Task) : Json :=
  .object [("deleted", .bool true), ("id", .string task.id), ("title", .string task.title)]

def deleteTask : TaskHandler := fun request => do
  let id ← request.requirePositional "task ID"
  if request.dryRun then
    let task ← TaskStore.find id
    return .value (previewDelete task)
  else
    let task ← TaskStore.remove id
    return .value (reportDelete task)

end Inquiry.Task
