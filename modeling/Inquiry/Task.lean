import Inquiry.Text.Lowercase
import Inquiry.Text.Quoted

set_option autoImplicit false

namespace Inquiry

namespace Task

inductive Status where
  | todo
  | inProgress
  | done
deriving DecidableEq

namespace Status

def all : List Status := [todo, inProgress, done]

def name : Status → String
  | todo => "todo"
  | inProgress => "in-progress"
  | done => "done"

def rank : Status → Nat
  | todo => 0
  | inProgress => 1
  | done => 2

def parse? (text : String) : Option Status :=
  all.find? fun status => Text.equalIgnoringAsciiCase status.name text

end Status

inductive Priority where
  | low
  | medium
  | high
deriving DecidableEq

namespace Priority

def all : List Priority := [low, medium, high]

def name : Priority → String
  | low => "low"
  | medium => "medium"
  | high => "high"

def rank : Priority → Nat
  | low => 0
  | medium => 1
  | high => 2

def parse? (text : String) : Option Priority :=
  all.find? fun priority => Text.equalIgnoringAsciiCase priority.name text

end Priority

def unknownVariant (kind text : String) : String := s!"unknown {kind} {Text.quoted text}"

end Task

structure Task where
  id : String
  title : String
  status : Task.Status
  /-- Empty if nobody is assigned. -/
  assignee : String
  priority : Task.Priority
  description : String
deriving DecidableEq

namespace Task

structure Proposal where
  title : String
  status : Status
  assignee : String
  priority : Priority
deriving DecidableEq

structure Changes where
  title : Option String
  status : Option Status
  assignee : Option String
  priority : Option Priority
deriving DecidableEq

def change (task : Task) (changes : Changes) : Task :=
  { task with
    title := changes.title.getD task.title
    status := changes.status.getD task.status
    assignee := changes.assignee.getD task.assignee
    priority := changes.priority.getD task.priority }

end Task

end Inquiry
