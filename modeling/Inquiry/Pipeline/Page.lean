import Inquiry.Failure
import Inquiry.Text.Count

set_option autoImplicit false

namespace Inquiry

structure Page where
  skip : Option Nat
  take : Option Nat
deriving DecidableEq

namespace Page

def whole : Page := ⟨none, none⟩

def isUnbounded (page : Page) : Bool := page.skip.isNone && page.take.isNone

def parseCount (param value : String) : Except Failure Nat :=
  match Text.count? value with
  | some count => .ok count
  | none => .error (.badCount param value)

def parseBound (param : String) (value? : Option String) : Except Failure (Option Nat) :=
  match value? with
  | some value => (parseCount param value).map some
  | none => .ok none

def parse (skip? take? : Option String) : Except Failure Page := do
  let skip ← parseBound "skip" skip?
  let take ← parseBound "take" take?
  return ⟨skip, take⟩

def apply {ι : Type} (page : Page) (items : List ι) : List ι :=
  let kept := items.drop (page.skip.getD 0)
  match page.take with
  | some limit => kept.take limit
  | none => kept

end Page

end Inquiry
