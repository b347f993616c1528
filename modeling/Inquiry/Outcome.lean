import Inquiry.Failure

set_option autoImplicit false

namespace Inquiry

inductive Slot where
  | record (columns : List String) (values : List Json)
  | records (columns : List String) (rows : List (List Json))
  | value (content : Json)
  | metadata (document : Json)
  | failure (reason : Failure)

namespace Slot

def failure? : Slot → Option Failure
  | failure reason => some reason
  | _ => none

def isFailure (slot : Slot) : Bool := slot.failure?.isSome

def status (slot : Slot) : String :=
  match slot.failure? with
  | some reason => reason.code.wireName
  | none => "ok"

def recordObject (columns : List String) (values : List Json) : Json :=
  .ofPairs (columns.zip values)

def toJson : Slot → Json
  | record columns values => recordObject columns values
  | records columns rows => .array (rows.map (recordObject columns))
  | value content => content
  | metadata document => document
  | failure reason => reason.payload

def ofResult : Except Failure Slot → Slot
  | .ok slot => slot
  | .error reason => .failure reason

end Slot

inductive Outcome where
  | single (slot : Slot)
  | batch (slots : List Slot)

namespace Outcome

def ofSlots : List Slot → Outcome
  | [slot] => single slot
  | slots => batch slots

def slots : Outcome → List Slot
  | single slot => [slot]
  | batch slots => slots

def length (outcome : Outcome) : Nat := outcome.slots.length

def isEmpty (outcome : Outcome) : Bool := outcome.slots.isEmpty

def hasFailures (outcome : Outcome) : Bool := outcome.slots.any Slot.isFailure

def toJson : Outcome → Json
  | single slot => slot.toJson
  | batch slots => .array (slots.map Slot.toJson)

@[simp] theorem slots_ofSlots (slots : List Slot) : (ofSlots slots).slots = slots := by
  match slots with
  | [] => rfl
  | [_] => rfl
  | _ :: _ :: _ => rfl

end Outcome

end Inquiry
