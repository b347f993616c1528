import Inquiry.Outcome.Rendering
import Inquiry.Proofs.Text.Csv
import Mathlib.Data.List.Forall2

set_option autoImplicit false

namespace Inquiry

open Text

section Lists

variable {α β : Type} {items : List α} {results : List β}

theorem mapM_eq_some_of_forall₂ {change : α → Option β}
    (changed : List.Forall₂ (fun item result => change item = some result) items results) :
    items.mapM change = some results := by
  induction changed with
  | nil => rfl
  | cons first _ ih => simp [List.mapM_cons, first, ih]

theorem exists_forall₂ {Related : α → β → Prop}
    (related : ∀ item ∈ items, ∃ result, Related item result) :
    ∃ results, List.Forall₂ Related items results := by
  induction items with
  | nil => exact ⟨[], .nil⟩
  | cons item rest ih =>
    obtain ⟨first, later⟩ := List.forall_mem_cons.mp related
    obtain ⟨result, head⟩ := first
    obtain ⟨results, tail⟩ := ih later
    exact ⟨result :: results, .cons head tail⟩

theorem exists_getElem?_of_forall₂ {Related : α → β → Prop}
    (related : List.Forall₂ Related items results) {index : Nat} {item : α}
    (found : items[index]? = some item) :
    ∃ result, results[index]? = some result ∧ Related item result := by
  induction related generalizing index with
  | nil => simp at found
  | cons head _ ih =>
    cases index with
    | zero =>
      obtain rfl : _ = item := by simpa using found
      exact ⟨_, rfl, head⟩
    | succ index => exact ih (by simpa using found)

theorem exists_mem_of_forall₂ {Related : α → β → Prop}
    (related : List.Forall₂ Related items results) {result : β} (member : result ∈ results) :
    ∃ item ∈ items, Related item result := by
  obtain ⟨index, found⟩ := List.mem_iff_getElem?.mp member
  obtain ⟨item, there, same⟩ := exists_getElem?_of_forall₂ related.flip found
  exact ⟨item, List.mem_of_getElem? there, same⟩

end Lists

namespace Json

def IsScalar : Json → Prop
  | null | bool _ | number _ | decimal _ | string _ => True
  | array _ | object _ => False

inductive ShownAs : Json → List Char → Prop
  | null : ShownAs .null []
  | true : ShownAs (.bool .true) "true".toList
  | false : ShownAs (.bool .false) "false".toList
  | number (value : Int) : ShownAs (.number value) (toString value).toList
  | decimal (numeral : Numeral) : ShownAs (.decimal numeral) numeral.text.toList
  | string (text : String) : ShownAs (.string text) text.toList

theorem scalarText?_eq_some_iff {value : Json} {text : List Char} :
    value.scalarText? = some text ↔ value.ShownAs text := by
  constructor
  · intro shown
    cases value with
    | bool value => cases value <;> obtain rfl := Option.some.inj shown <;> constructor
    | array _ | object _ => cases shown
    | _ => obtain rfl := Option.some.inj shown; constructor
  · rintro (_ | _ | _ | _ | _ | _) <;> rfl

theorem ShownAs.unique {value : Json} {text other : List Char} (shown : value.ShownAs text)
    (alsoShown : value.ShownAs other) : text = other :=
  Option.some.inj <|
    (scalarText?_eq_some_iff.mpr shown).symm.trans (scalarText?_eq_some_iff.mpr alsoShown)

theorem IsScalar.exists_shownAs {value : Json} (scalar : value.IsScalar) :
    ∃ text, value.ShownAs text := by
  have shown : ∃ text, value.scalarText? = some text := by
    cases value with
    | array _ | object _ => exact absurd scalar id
    | _ => exact ⟨_, rfl⟩
  exact shown.imp fun _ => scalarText?_eq_some_iff.mp

end Json

inductive Slot.Tabular (columns : List String) : Slot → Prop
  | records {rows : List (List Json)} (full : ∀ row ∈ rows, row.length = columns.length)
      (scalars : ∀ row ∈ rows, ∀ value ∈ row, value.IsScalar) :
      Tabular columns (.records columns rows)

structure Outcome.Tabular (columns : List String) (outcome : Outcome) : Prop where
  someColumns : columns ≠ []
  someSlots : outcome.slots ≠ []
  slots : ∀ slot ∈ outcome.slots, slot.Tabular columns

inductive Slot.ShownAs (columns : List String) : Slot → Csv.Table → Prop
  | records {rows : List (List Json)} {lines : List Csv.Row}
      (cells : List.Forall₂ (List.Forall₂ Json.ShownAs) rows lines) :
      ShownAs columns (.records columns rows) (columns.map String.toList :: lines)

def Outcome.ShownAs (columns : List String) (outcome : Outcome) (tables : List Csv.Table) : Prop :=
  List.Forall₂ (Slot.ShownAs columns) outcome.slots tables

variable {columns : List String}

def Block.ofTable (columns : List String) (table : Csv.Table) : Block :=
  ⟨.table columns, table.flatMap Csv.line⟩

theorem Block.cells?_of_shownAs {row : List Json} {cells : Csv.Row}
    (full : row.length = columns.length) (shown : List.Forall₂ Json.ShownAs row cells) :
    Block.cells? columns row = some cells := by
  rw [Block.cells?, if_pos full]
  exact mapM_eq_some_of_forall₂ (shown.imp fun _ _ => Json.scalarText?_eq_some_iff.mpr)

namespace Slot

theorem Tabular.exists_shownAs {slot : Slot} (tabular : slot.Tabular columns) :
    ∃ table, slot.ShownAs columns table := by
  obtain ⟨-, scalars⟩ := tabular
  obtain ⟨lines, shown⟩ := exists_forall₂ fun row member =>
    exists_forall₂ fun value within => (scalars row member value within).exists_shownAs
  exact ⟨_, .records shown⟩

theorem Tabular.ofSlot? {slot : Slot} {table : Csv.Table} (tabular : slot.Tabular columns)
    (shown : slot.ShownAs columns table) :
    Block.ofSlot? slot = some (.ofTable columns table) := by
  obtain @⟨rows, lines, shown⟩ := shown
  obtain ⟨full, -⟩ := tabular
  have written : rows.mapM (Block.cells? columns) = some lines :=
    mapM_eq_some_of_forall₂ <| ((List.forall₂_and_left _ _).mpr ⟨full, shown⟩).imp
      fun _ _ related => Block.cells?_of_shownAs related.1 related.2
  simp [Block.ofSlot?, Block.table?, Block.ofTable, written]

theorem Tabular.cells_ne_nil {slot : Slot} {table : Csv.Table} (tabular : slot.Tabular columns)
    (shown : slot.ShownAs columns table) (someColumns : columns ≠ []) :
    ∀ cells ∈ table, cells ≠ [] := by
  obtain @⟨rows, lines, shown⟩ := shown
  obtain ⟨full, -⟩ := tabular
  have columnsLong : 0 < columns.length := List.length_pos_of_ne_nil someColumns
  refine List.forall_mem_cons.mpr ⟨by simpa using someColumns, fun cells member => ?_⟩
  obtain ⟨row, inRows, related⟩ := exists_mem_of_forall₂ shown member
  have rowLong := full row inRows
  have cellsLong := related.length_eq
  exact List.ne_nil_of_length_pos (by omega)

def rows : Slot → List (List Json)
  | records _ rows => rows
  | _ => []

end Slot

namespace Outcome

theorem Tabular.exists_shownAs {outcome : Outcome} (tabular : outcome.Tabular columns) :
    ∃ tables, outcome.ShownAs columns tables :=
  exists_forall₂ fun slot member => (tabular.slots slot member).exists_shownAs

theorem Tabular.mapM_ofSlot? {outcome : Outcome} {tables : List Csv.Table}
    (tabular : outcome.Tabular columns) (shown : outcome.ShownAs columns tables) :
    outcome.slots.mapM Block.ofSlot? = some (tables.map (.ofTable columns)) :=
  mapM_eq_some_of_forall₂ <| List.forall₂_map_right_iff.mpr <|
    ((List.forall₂_and_left _ _).mpr ⟨tabular.slots, shown⟩).imp
      fun _ _ related => related.1.ofSlot? related.2

theorem Tabular.compactText? {outcome : Outcome} {tables : List Csv.Table}
    (tabular : outcome.Tabular columns) (shown : outcome.ShownAs columns tables) :
    outcome.compactText? =
      some (['\n'].intercalate (tables.map fun table => table.flatMap Csv.line)) := by
  cases tables with
  | nil => exact absurd (List.forall₂_nil_right_iff.mp shown) tabular.someSlots
  | cons table rest =>
    cases outcome with
    | single slot =>
      obtain ⟨alone, none⟩ := List.forall₂_cons.mp shown
      obtain rfl : rest = [] := List.forall₂_nil_left_iff.mp none
      have block := (tabular.slots slot (List.mem_singleton_self _)).ofSlot? alone
      simp [Outcome.compactText?, block, Block.ofTable]
    | batch slots =>
      have blocks : slots.mapM Block.ofSlot? = some ((table :: rest).map (.ofTable columns)) :=
        tabular.mapM_ofSlot? shown
      simp [Outcome.compactText?, blocks?, blocks, Block.ofTable, Function.comp_def]

theorem Tabular.read_render {outcome : Outcome} {tables : List Csv.Table}
    (tabular : outcome.Tabular columns) (shown : outcome.ShownAs columns tables) :
    ∃ text, outcome.renderCompact? = some text ∧ outcome.render .compact = text ∧
      Csv.read text.toList = some tables := by
  have someTables : tables ≠ [] := by
    have long : outcome.slots.length = tables.length := shown.length_eq
    have := List.length_pos_of_ne_nil tabular.someSlots
    exact List.ne_nil_of_length_pos (by omega)
  have someCells : ∀ rows ∈ tables, ∀ cells ∈ rows, cells ≠ [] := by
    intro rows member
    obtain ⟨slot, inSlots, table⟩ := exists_mem_of_forall₂ shown member
    exact (tabular.slots slot inSlots).cells_ne_nil table tabular.someColumns
  have written := tabular.compactText? shown
  have short : outcome.renderCompact? = some (String.ofList
      (['\n'].intercalate (tables.map fun table => table.flatMap Csv.line))) := by
    simp [renderCompact?, written]
  refine ⟨_, short, by simp [render, short], ?_⟩
  simpa using Csv.read_intercalate someTables someCells

def cell? (outcome : Outcome) (slot row column : Nat) : Option Json :=
  outcome.slots[slot]?.bind fun slot => slot.rows[row]?.bind fun cells => cells[column]?

/-- Outcomes with another number of slots, another number of rows in a slot or another text in a
cell. -/
inductive Differ (first second : Outcome) : Prop
  | slots (counts : first.slots.length ≠ second.slots.length)
  | rows (index : Nat) {left right : Slot} (inFirst : first.slots[index]? = some left)
      (inSecond : second.slots[index]? = some right)
      (counts : left.rows.length ≠ right.rows.length)
  | cell (slot row column : Nat) {left right : Json} {text other : List Char}
      (inFirst : first.cell? slot row column = some left)
      (inSecond : second.cell? slot row column = some right)
      (leftShown : left.ShownAs text) (rightShown : right.ShownAs other) (texts : text ≠ other)

variable {outcome : Outcome} {tables : List Csv.Table}

theorem ShownAs.length_rows (shown : outcome.ShownAs columns tables) {index : Nat} {slot : Slot}
    (found : outcome.slots[index]? = some slot) :
    tables[index]?.map List.length = some (slot.rows.length + 1) := by
  obtain ⟨table, there, ⟨cells⟩⟩ := exists_getElem?_of_forall₂ shown found
  simp [there, Slot.rows, cells.length_eq]

theorem ShownAs.cell (shown : outcome.ShownAs columns tables) {slot row column : Nat} {value : Json}
    (found : outcome.cell? slot row column = some value) :
    ∃ text, value.ShownAs text ∧
      (tables[slot]?.bind fun table => table[row + 1]?.bind fun cells => cells[column]?) =
        some text := by
  obtain ⟨source, atSlot, inRows⟩ := Option.bind_eq_some_iff.mp found
  obtain ⟨cells, atRow, atColumn⟩ := Option.bind_eq_some_iff.mp inRows
  obtain ⟨table, inTables, ⟨lines⟩⟩ := exists_getElem?_of_forall₂ shown atSlot
  obtain ⟨line, inTable, texts⟩ := exists_getElem?_of_forall₂ lines atRow
  obtain ⟨text, inLine, same⟩ := exists_getElem?_of_forall₂ texts atColumn
  exact ⟨text, same, by simp [inTables, inTable, inLine]⟩

theorem ShownAs.not_differ {other : Outcome} (shown : outcome.ShownAs columns tables)
    (alsoShown : other.ShownAs columns tables) : ¬ outcome.Differ other := by
  rintro (counts | ⟨index, inFirst, inSecond, counts⟩ |
    ⟨slot, row, column, inFirst, inSecond, leftShown, rightShown, texts⟩)
  · exact counts (shown.length_eq.trans alsoShown.length_eq.symm)
  · have lengths := (shown.length_rows inFirst).symm.trans (alsoShown.length_rows inSecond)
    simp at lengths
    exact counts lengths
  · obtain ⟨left, leftSame, leftPlace⟩ := shown.cell inFirst
    obtain ⟨right, rightSame, rightPlace⟩ := alsoShown.cell inSecond
    obtain rfl : left = right := Option.some.inj (leftPlace.symm.trans rightPlace)
    exact texts ((leftShown.unique leftSame).trans (rightSame.unique rightShown))

/-- Lists over the same columns have a short form that is read back as their tables, so no two of
them that differ have the same one. -/
theorem render_compact_faithful (columns : List String) :
    (∀ outcome : Outcome, outcome.Tabular columns → ∃ text tables,
      outcome.renderCompact? = some text ∧ outcome.render .compact = text ∧
      Csv.read text.toList = some tables ∧ outcome.ShownAs columns tables) ∧
    ∀ first second : Outcome, first.Tabular columns → second.Tabular columns →
      first.Differ second → first.render .compact ≠ second.render .compact := by
  constructor
  · intro outcome tabular
    obtain ⟨tables, shown⟩ := tabular.exists_shownAs
    obtain ⟨text, short, rendered, back⟩ := tabular.read_render shown
    exact ⟨text, tables, short, rendered, back, shown⟩
  · intro first second firstTabular secondTabular differ same
    obtain ⟨tables, shown⟩ := firstTabular.exists_shownAs
    obtain ⟨others, alsoShown⟩ := secondTabular.exists_shownAs
    obtain ⟨text, -, rendered, back⟩ := firstTabular.read_render shown
    obtain ⟨other, -, alsoRendered, alsoBack⟩ := secondTabular.read_render alsoShown
    obtain rfl : text = other := by rw [← rendered, ← alsoRendered, same]
    obtain rfl : tables = others := Option.some.inj (back.symm.trans alsoBack)
    exact shown.not_differ alsoShown differ

theorem render_compact_faithful_blank_lines :
    let hard := Json.string "a,\n\n\"b\"\r"
    let first := batch [.records ["note"] [[.null], [hard]], .records ["note"] []]
    let second := batch [.records ["note"] [[hard]], .records ["note"] [[.null]]]
    first.Tabular ["note"] ∧ second.Tabular ["note"] ∧ first.Differ second ∧
      first.render .compact = "note\n\"\"\n\"a,\n\n\"\"b\"\"\r\"\n\nnote\n" ∧
      first.ShownAs ["note"]
        [[["note".toList], [[]], ["a,\n\n\"b\"\r".toList]], [["note".toList]]] ∧
      first.render .compact ≠ second.render .compact := by
  intro hard first second
  have firstTabular : first.Tabular ["note"] := ⟨by simp, by simp [first, slots], by
    simp only [first, slots, List.forall_mem_cons]
    exact ⟨⟨by simp, by simp [Json.IsScalar, hard]⟩, ⟨by simp, by simp⟩, by simp⟩⟩
  have secondTabular : second.Tabular ["note"] := ⟨by simp, by simp [second, slots], by
    simp only [second, slots, List.forall_mem_cons]
    exact ⟨⟨by simp, by simp [Json.IsScalar, hard]⟩, ⟨by simp, by simp [Json.IsScalar]⟩, by simp⟩⟩
  have differ : first.Differ second := .rows 0 rfl rfl (by decide)
  obtain ⟨reads, distinct⟩ := render_compact_faithful ["note"]
  obtain ⟨text, tables, short, rendered, back, shown⟩ := reads first firstTabular
  have written : text = "note\n\"\"\n\"a,\n\n\"\"b\"\"\r\"\n\nnote\n" := by
    rw [← rendered]
    decide +kernel
  have read : Csv.read text.toList = some
      [[["note".toList], [[]], ["a,\n\n\"b\"\r".toList]], [["note".toList]]] := by
    rw [written]
    decide +kernel
  obtain rfl := Option.some.inj (back.symm.trans read)
  exact ⟨firstTabular, secondTabular, differ, rendered.trans written, shown,
    distinct first second firstTabular secondTabular differ⟩

end Outcome

end Inquiry
