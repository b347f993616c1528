import Inquiry.Failure

/-!
Steps that work on the state of a host. An effect reads and changes the host state and notes what
it does; an action is an effect that may fail. What an action changed before it failed stays.
-/

set_option autoImplicit false

namespace Inquiry

inductive LogLevel where
  | trace
  | debug
  | warn
deriving DecidableEq

def LogLevel.name : LogLevel → String
  | trace => "TRACE"
  | debug => "DEBUG"
  | warn => "WARN"

structure LogRecord where
  level : LogLevel
  text : String
deriving DecidableEq

def LogRecord.display (entry : LogRecord) : String := s!"{entry.level.name} {entry.text}"

structure Ran (σ α : Type) where
  answer : α
  state : σ
  log : List LogRecord

def Effect (σ α : Type) := σ → Ran σ α

namespace Effect

variable {σ α β : Type}

instance : Monad (Effect σ) where
  pure answer := fun state => ⟨answer, state, []⟩
  bind effect next := fun state =>
    let first := effect state
    let second := next first.answer first.state
    ⟨second.answer, second.state, first.log ++ second.log⟩

@[simp] theorem pure_run (answer : α) (state : σ) :
    (pure answer : Effect σ α) state = ⟨answer, state, []⟩ := rfl

@[simp] theorem bind_run (effect : Effect σ α) (next : α → Effect σ β) (state : σ) :
    (effect >>= next) state =
      ⟨(next (effect state).answer (effect state).state).answer,
        (next (effect state).answer (effect state).state).state,
        (effect state).log ++ (next (effect state).answer (effect state).state).log⟩ := rfl

instance : LawfulMonad (Effect σ) :=
  LawfulMonad.mk' (Effect σ)
    (by
      intro α effect
      funext state
      change Ran.mk (effect state).answer (effect state).state ((effect state).log ++ []) = _
      simp)
    (by intro α β answer next; funext state; simp)
    (by intro α β γ first second third; funext state; simp [List.append_assoc])

def note (level : LogLevel) (text : String) : Effect σ Unit :=
  fun state => ⟨(), state, [⟨level, text⟩]⟩

def get : Effect σ σ := fun state => ⟨state, state, []⟩

def set (state : σ) : Effect σ Unit := fun _ => ⟨(), state, []⟩

@[simp] theorem note_run (level : LogLevel) (text : String) (state : σ) :
    note level text state = ⟨(), state, [⟨level, text⟩]⟩ := rfl

@[simp] theorem get_run (state : σ) : get state = ⟨state, state, []⟩ := rfl

@[simp] theorem set_run (new old : σ) : set new old = ⟨(), new, []⟩ := rfl

end Effect

abbrev Action (σ α : Type) := ExceptT Failure (Effect σ) α

namespace Action

variable {σ α : Type}

def note (level : LogLevel) (text : String) : Action σ Unit := ExceptT.lift (Effect.note level text)

def get : Action σ σ := ExceptT.lift Effect.get

def set (state : σ) : Action σ Unit := ExceptT.lift (Effect.set state)

end Action

end Inquiry
