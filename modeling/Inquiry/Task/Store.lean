import Inquiry.Effect
import Inquiry.Task
import Inquiry.Text.Count

set_option autoImplicit false

namespace Inquiry

structure TaskStore where
  tasks : List Task
  nextId : Nat
deriving DecidableEq

def Failure.taskNotFound (id : String) : Failure :=
  (of .notFound s!"task {Text.quoted id} not found").withText "id" id

namespace TaskStore

-- The count goes on from the length of the list, whatever ids are in it.
def ofTasks (tasks : List Task) : TaskStore := ⟨tasks, tasks.length + 1⟩

-- The counter has 64 bits, and so many more tasks can be made before it overflows.
def HasRoom (store : TaskStore) (count : Nat) : Prop := store.nextId + count < Text.countBound

def idOf (number : Nat) : String := s!"task-{number}"

def taskOf (store : TaskStore) (proposal : Task.Proposal) : Task :=
  ⟨idOf store.nextId, proposal.title, proposal.status, proposal.assignee, proposal.priority, ""⟩

def add (store : TaskStore) (proposal : Task.Proposal) : TaskStore :=
  ⟨store.tasks ++ [store.taskOf proposal], store.nextId + 1⟩

def find? (store : TaskStore) (id : String) : Option Task :=
  store.tasks.find? fun task => task.id = id

/-- Changes the first task with an id, where it stands. -/
def changeFirst (changes : Task.Changes) (id : String) : List Task → List Task
  | [] => []
  | task :: rest =>
    if task.id = id then task.change changes :: rest else task :: changeFirst changes id rest

def change (store : TaskStore) (id : String) (changes : Task.Changes) : TaskStore :=
  { store with tasks := changeFirst changes id store.tasks }

def erase (store : TaskStore) (id : String) : TaskStore :=
  { store with tasks := store.tasks.eraseP fun task => task.id = id }

def find (id : String) : Action TaskStore Task := do
  let store ← Action.get
  match store.find? id with
  | some task => return task
  | none => throw (.taskNotFound id)

def create (proposal : Task.Proposal) : Action TaskStore Task := do
  let store ← Action.get
  let task := store.taskOf proposal
  Action.set (store.add proposal)
  Action.note .debug s!"created {task.id}"
  return task

def update (id : String) (changes : Task.Changes) : Action TaskStore Task := do
  let task ← find id
  let store ← Action.get
  Action.set (store.change id changes)
  return task.change changes

def remove (id : String) : Action TaskStore Task := do
  let task ← find id
  let store ← Action.get
  Action.note .debug s!"removing {id}"
  Action.set (store.erase id)
  return task

def snapshot : Action TaskStore (List Task) := do
  let store ← Action.get
  return store.tasks

def sampleTasks : List Task := [
  ⟨idOf 1, "Auth service refactor", .inProgress, "alice", .high,
    "Refactor auth to use JWT tokens"⟩,
  ⟨idOf 2, "Dashboard performance", .todo, "bob", .medium,
    "Optimize dashboard load time to under 2s"⟩,
  ⟨idOf 3, "Fix login redirect bug", .done, "alice", .high,
    "Users get stuck on /callback after OAuth"⟩,
  ⟨idOf 4, "Add dark mode", .done, "carol", .low, "Implement dark mode toggle in settings"⟩,
  ⟨idOf 5, "Pagination API", .inProgress, "dave", .medium,
    "Add cursor-based pagination to list endpoints"⟩,
  ⟨idOf 6, "CI pipeline speedup", .todo, "", .medium,
    "Reduce CI build time from 12min to under 5min"⟩,
  ⟨idOf 7, "Write onboarding docs", .done, "carol", .low, "New developer onboarding guide"⟩,
  ⟨idOf 8, "Rate limiter middleware", .inProgress, "bob", .high,
    "Add per-user rate limiting to public API"⟩]

def withSampleTasks : TaskStore := ofTasks sampleTasks

end TaskStore

end Inquiry
