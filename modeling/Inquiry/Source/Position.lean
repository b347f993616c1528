
set_option autoImplicit false

namespace Inquiry

def byteLength : List Char → Nat
  | [] => 0
  | char :: rest => char.utf8Size + byteLength rest

@[simp] theorem byteLength_nil : byteLength [] = 0 := rfl

@[simp] theorem byteLength_cons (char : Char) (text : List Char) :
    byteLength (char :: text) = char.utf8Size + byteLength text := rfl

@[simp] theorem byteLength_append (first second : List Char) :
    byteLength (first ++ second) = byteLength first + byteLength second := by
  induction first with
  | nil => simp
  | cons char rest ih =>
    simp only [List.cons_append, byteLength_cons, ih]
    omega

structure Position where
  line : Nat
  column : Nat
  offset : Nat
deriving DecidableEq

namespace Position

def origin : Position := ⟨0, 0, 0⟩

def advance (position : Position) (char : Char) : Position :=
  if char = '\n' then ⟨position.line + 1, 0, position.offset + 1⟩
  else ⟨position.line, position.column + 1, position.offset + char.utf8Size⟩

def after (position : Position) (text : List Char) : Position := text.foldl advance position

@[simp] theorem after_nil (position : Position) : position.after [] = position := rfl

@[simp] theorem after_cons (position : Position) (char : Char) (text : List Char) :
    position.after (char :: text) = (position.advance char).after text := rfl

@[simp] theorem after_append (position : Position) (first second : List Char) :
    position.after (first ++ second) = (position.after first).after second := by
  simp [after]

def displayLine (position : Position) : Nat := position.line + 1

def displayColumn (position : Position) : Nat := position.column + 1

def display (position : Position) : String :=
  s!"{position.displayLine}:{position.displayColumn}"

end Position

structure Span where
  start : Position
  stop : Position
deriving DecidableEq

namespace Span

def emptyAt (position : Position) : Span := ⟨position, position⟩

def through (first second : Span) : Span := ⟨first.start, second.stop⟩

def byteLength (span : Span) : Nat := span.stop.offset - span.start.offset

end Span

end Inquiry
