import Inquiry.Outcome.Structured
import Inquiry.Text.Csv

/-!
Short forms of outcomes: a table with one header for lists, and lines of `field:value` for single
records. What has no faithful short form keeps the structured one: nested values, failures,
self-descriptions, and batches whose slots differ in shape.
-/

set_option autoImplicit false

namespace Inquiry

inductive Layout where
  | table (columns : List String)
  | record (fields : List String)
deriving DecidableEq

structure Block where
  layout : Layout
  text : List Char

def Json.scalarText? : Json → Option (List Char)
  | null => some []
  | bool value => some (renderBool value).toList
  | number value => some (toString value).toList
  | decimal numeral => some numeral.text.toList
  | string text => some text.toList
  | array _ | object _ => none

namespace Block

def cells? (columns : List String) (row : List Json) : Option (List (List Char)) :=
  if row.length = columns.length then row.mapM Json.scalarText? else none

def table? (columns : List String) (rows : List (List Json)) : Option Block := do
  let lines ← rows.mapM (cells? columns)
  return ⟨.table columns, (columns.map String.toList :: lines).flatMap Text.Csv.line⟩

def withoutBreaks (char : Char) : List Char :=
  if char = '\n' then ['\\', 'n'] else if char = '\r' then ['\\', 'r'] else [char]

def fieldLine (field : String) (value : List Char) : List Char :=
  field.toList ++ ':' :: value.flatMap withoutBreaks ++ ['\n']

def record? (fields : List String) (values : List Json) : Option Block := do
  let lines ← (fields.zip values).mapM fun (field, value) =>
    value.scalarText?.map (fieldLine field)
  return ⟨.record fields, lines.flatten⟩

def rowOf? (columns : List String) : Json → Option (List Json)
  | .object entries =>
    if entries.map Prod.fst = columns then some (entries.map Prod.snd) else none
  | _ => none

def objects? (items : List Json) : Option Block :=
  match items with
  | .object first :: _ => do
    let columns := first.map Prod.fst
    let rows ← items.mapM (rowOf? columns)
    table? columns rows
  | _ => none

def ofSlot? : Slot → Option Block
  | .records columns rows => table? columns rows
  | .record columns values => record? columns values
  | .value (.object (entry :: rest)) =>
    record? ((entry :: rest).map Prod.fst) ((entry :: rest).map Prod.snd)
  | .value (.array items) => objects? items
  | .value _ | .metadata _ | .failure _ => none

end Block

namespace Outcome

def blocks? (slots : List Slot) : Option (List Block) := do
  let blocks ← slots.mapM Block.ofSlot?
  let first ← blocks.head?
  if blocks.all fun block => block.layout = first.layout then some blocks else none

def compactText? : Outcome → Option (List Char)
  | single slot => (Block.ofSlot? slot).map Block.text
  | batch slots => (blocks? slots).map fun blocks => ['\n'].intercalate (blocks.map Block.text)

def renderCompact? (outcome : Outcome) : Option String := outcome.compactText?.map String.ofList

end Outcome

end Inquiry
