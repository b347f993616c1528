import Inquiry.Registry.Draft
import Inquiry.Task.Operations

set_option autoImplicit false

namespace Inquiry.Task

abbrev TaskRegistration := Registration TaskStore Task

def fieldRegistrations : List TaskRegistration := [
  .field "id" fun task => .string task.id,
  .field "name" fun task => .string task.title,
  .field "status" fun task => .string task.status.name,
  .field "assignee" fun task => .string task.assignee,
  .field "priority" fun task => .string task.priority.name,
  .field "description" fun task => .string task.description,
  .preset "minimal" ["id", "status"],
  .preset "default" ["id", "name", "status"],
  .preset "overview" ["id", "name", "status", "assignee", "priority"],
  .preset "full" ["id", "name", "status", "assignee", "priority", "description"],
  .filterable "status" fun task => task.status.name,
  .filterable "assignee" Task.assignee,
  .filterable "priority" fun task => task.priority.name,
  .sortableBy "id" Task.id,
  .sortableBy "name" Task.title,
  .sortableBy "status" fun task => task.status.rank,
  .sortableBy "assignee" Task.assignee,
  .sortableBy "priority" fun task => task.priority.rank,
  .defaultFields ["default"]]

def idParameter : Parameter :=
  { Parameter.of "id" "string" "Task ID (positional)" with required := true }

def readRegistrations : List TaskRegistration := [
  .operation "get" getTask (some {
    description := "Find a single task by ID"
    parameters := [idParameter]
    examples := ["get(task-1) \x7b overview \x7d", "get(task-3) \x7b full \x7d"] }),
  .operation "list" listTasks (some {
    description := "List tasks with optional filters, sorting, and pagination"
    parameters := [
      .of "status" "string" "Filter by status",
      .of "assignee" "string" "Filter by assignee",
      .of "priority" "string" "Filter by priority",
      .of "sort_<field>" "asc|desc" "Sort by field (id, name, status, assignee, priority)",
      { Parameter.of "skip" "int" "Skip first N items" with default := some (.number 0) },
      .of "take" "int" "Return at most N items"]
    examples := ["list() \x7b overview \x7d", "list(status=done) \x7b minimal \x7d",
      "list(status=done, sort_name=desc, skip=0, take=2) \x7b overview \x7d"] }),
  .operation "count" countTasks (some {
    description := "Count tasks matching optional filters"
    parameters := [
      .of "status" "string" "Filter by status",
      .of "assignee" "string" "Filter by assignee"]
    examples := ["count()", "count(status=done)"] }),
  .operation "summary" summarizeTasks (some {
    description := "Return counts grouped by status"
    parameters := []
    examples := ["summary()"] })]

def statusParameter (description : String) : Parameter :=
  { Parameter.of "status" "string" description with allowed := Status.all.map Status.name }

def priorityParameter (description : String) : Parameter :=
  { Parameter.of "priority" "string" description with allowed := Priority.all.map Priority.name }

def mutationRegistrations : List TaskRegistration := [
  .mutation "create" createTask (some {
    description := "Create a new task"
    parameters := [
      { Parameter.of "title" "string" "Task title" with required := true },
      { statusParameter "Task status" with default := some (.string "todo") },
      .of "assignee" "string" "Assignee username",
      { priorityParameter "Task priority" with default := some (.string "medium") }]
    examples := ["create(title=\"Fix login bug\")",
      "create(title=\"New feature\", status=in-progress, assignee=alice, priority=high)"]
    destructive := false
    idempotent := false }),
  .mutation "update" updateTask (some {
    description := "Update task fields by ID"
    parameters := [
      idParameter,
      .of "title" "string" "New title",
      statusParameter "New status",
      .of "assignee" "string" "New assignee",
      priorityParameter "New priority"]
    examples := ["update(task-1, status=done)",
      "update(task-1, title=\"New title\", assignee=bob)"]
    destructive := false
    idempotent := true }),
  .mutation "delete" deleteTask (some {
    description := "Delete a task by ID"
    parameters := [idParameter]
    examples := ["delete(task-1)"]
    destructive := true
    idempotent := true })]

def registrations : List TaskRegistration :=
  fieldRegistrations ++ readRegistrations ++ mutationRegistrations
    ++ [.loader TaskStore.snapshot]

theorem registrations_build : (Registry.ofRegistrations registrations).isOk = true := rfl

def schema : Schema TaskStore Task :=
  match built : Registry.ofRegistrations registrations with
  | .ok schema => schema
  | .error _ => absurd registrations_build (by simp [built, Except.isOk, Except.toBool])

end Inquiry.Task
