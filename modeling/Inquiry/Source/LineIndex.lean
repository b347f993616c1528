import Inquiry.Source.Position

set_option autoImplicit false

namespace Inquiry

def splitAtByte : List Char → Nat → Option (List Char × List Char)
  | text, 0 => some ([], text)
  | [], _ + 1 => none
  | char :: rest, offset + 1 =>
    if char.utf8Size ≤ offset + 1 then
      (splitAtByte rest (offset + 1 - char.utf8Size)).map fun (before, after) =>
        (char :: before, after)
    else none

def sliceBytes (source : List Char) (start stop : Nat) : Option (List Char) :=
  if start ≤ stop then do
    let (_, tail) ← splitAtByte source start
    let (text, _) ← splitAtByte tail (stop - start)
    return text
  else none

structure LineIndex where
  source : List Char
  lineStarts : List Nat

namespace LineIndex

def startsAfter (offset : Nat) : List Char → List Nat
  | [] => []
  | char :: rest =>
    let next := offset + char.utf8Size
    if char = '\n' then next :: startsAfter next rest else startsAfter next rest

def ofSource (source : String) : LineIndex :=
  ⟨source.toList, 0 :: startsAfter 0 source.toList⟩

def lineCount (index : LineIndex) : Nat := index.lineStarts.length

/-- The position at a byte offset. An offset past the end stands for the end; within a character
the column counts bytes. -/
def positionAt (index : LineIndex) (offset : Nat) : Position :=
  let clamped := min offset (byteLength index.source)
  let line := index.lineStarts.countP (· ≤ clamped) - 1
  let lineStart := index.lineStarts.getD line 0
  let column :=
    match sliceBytes index.source lineStart clamped with
    | some text => text.length
    | none => clamped - lineStart
  ⟨line, column, clamped⟩

def withoutReturn (text : List Char) : List Char :=
  if text.getLast? = some '\r' then text.dropLast else text

def lineText? (index : LineIndex) (line : Nat) : Option (List Char) := do
  let start ← index.lineStarts[line]?
  let stop :=
    match index.lineStarts[line + 1]? with
    | some next => next - 1
    | none => byteLength index.source
  let text ← sliceBytes index.source start stop
  return withoutReturn text

end LineIndex

end Inquiry
