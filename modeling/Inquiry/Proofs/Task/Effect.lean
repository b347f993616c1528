import Inquiry.Proofs.Task.Plan

set_option autoImplicit false

namespace Inquiry

namespace Task

def Takes {α : Type} (parse? : String → Option α) (text? : Option String) (otherwise value : α) :
    Prop :=
  match text? with
  | none => value = otherwise
  | some text => parse? text = some value

theorem Reads.takes {α : Type} {parse? : String → Option α} {text? : Option String}
    {value? : Option α} (reads : Reads parse? text? value?) (otherwise : α) :
    Takes parse? text? otherwise (value?.getD otherwise) := by
  cases text? <;> cases value? <;> simp_all [Reads, Takes]

structure Created (query : Query) (before after : TaskStore) (task : Task) : Prop where
  tasks : after.tasks = before.tasks ++ [task]
  nextId : after.nextId = before.nextId + 1
  id : task.id = TaskStore.idOf before.nextId
  title : query.namedParam? "title" = some task.title
  status : Takes Status.parse? (query.namedParam? "status") .todo task.status
  assignee : task.assignee = (query.namedParam? "assignee").getD ""
  priority : Takes Priority.parse? (query.namedParam? "priority") .medium task.priority
  description : task.description = ""

-- Of several tasks with one id it is the first that is meant.
structure Updated (query : Query) (before after : TaskStore) (old new : Task) : Prop where
  tasks : ∃ first rest, before.tasks = first ++ old :: rest ∧ after.tasks = first ++ new :: rest
    ∧ ∀ other ∈ first, other.id ≠ old.id
  nextId : after.nextId = before.nextId
  addressed : query.positionalParams.head? = some old.id
  id : new.id = old.id
  title : new.title = (query.namedParam? "title").getD old.title
  status : Takes Status.parse? (query.namedParam? "status") old.status new.status
  assignee : new.assignee = (query.namedParam? "assignee").getD old.assignee
  priority : Takes Priority.parse? (query.namedParam? "priority") old.priority new.priority
  description : new.description = old.description

structure Deleted (query : Query) (before after : TaskStore) (task : Task) : Prop where
  tasks : ∃ first rest, before.tasks = first ++ task :: rest ∧ after.tasks = first ++ rest
    ∧ ∀ other ∈ first, other.id ≠ task.id
  nextId : after.nextId = before.nextId
  addressed : query.positionalParams.head? = some task.id

end Task

namespace TaskStore

theorem split_of_find? {store : TaskStore} {task : Task}
    (found : store.find? task.id = some task) :
    ∃ first rest, store.tasks = first ++ task :: rest ∧ ∀ other ∈ first, other.id ≠ task.id := by
  obtain ⟨-, first, rest, whole, earlier⟩ := List.find?_eq_some_iff_append.mp found
  exact ⟨first, rest, whole, fun other member => by simpa using earlier other member⟩

theorem changeFirst_append {first rest : List Task} {task : Task} (changes : Task.Changes)
    (earlier : ∀ other ∈ first, other.id ≠ task.id) :
    changeFirst changes task.id (first ++ task :: rest) =
      first ++ task.change changes :: rest := by
  induction first with
  | nil => simp [changeFirst]
  | cons other others ih =>
    obtain ⟨different, later⟩ := List.forall_mem_cons.mp earlier
    simp [changeFirst, different, ih later]

theorem eraseP_append_of_ne {first rest : List Task} {task : Task}
    (earlier : ∀ other ∈ first, other.id ≠ task.id) :
    (first ++ task :: rest).eraseP (fun other => other.id = task.id) = first ++ rest := by
  rw [List.eraseP_append_right]
  · simp
  · simpa using earlier

end TaskStore

namespace Task

variable {query : Query} {store : TaskStore}

theorem Plans.created {proposal : Proposal} (plans : Plans query store (.create proposal)) :
    Created query store (store.add proposal) (store.taskOf proposal) := by
  cases plans with
  | create name titled status priority =>
    exact ⟨rfl, rfl, rfl, titled, status.takes .todo, rfl, priority.takes .medium, rfl⟩

theorem Plans.updated {task : Task} {changes : Changes}
    (plans : Plans query store (.update task changes)) :
    Updated query store (store.change task.id changes) task (task.change changes) := by
  cases plans with
  | update name addressed found status priority =>
    obtain ⟨first, rest, whole, earlier⟩ := TaskStore.split_of_find? found
    refine ⟨⟨first, rest, whole, ?_, earlier⟩, rfl, addressed, rfl, rfl,
      status.takes task.status, rfl, priority.takes task.priority, rfl⟩
    rw [TaskStore.change, whole, TaskStore.changeFirst_append _ earlier]

theorem Plans.deleted {task : Task} (plans : Plans query store (.delete task)) :
    Deleted query store (store.erase task.id) task := by
  cases plans with
  | delete name addressed found =>
    obtain ⟨first, rest, whole, earlier⟩ := TaskStore.split_of_find? found
    refine ⟨⟨first, rest, whole, ?_, earlier⟩, rfl, addressed⟩
    rw [TaskStore.erase, whole, TaskStore.eraseP_append_of_ne earlier]

end Task

end Inquiry
