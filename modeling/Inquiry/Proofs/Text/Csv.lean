import Inquiry.Text.Csv
import Mathlib.Data.List.Basic

set_option autoImplicit false

namespace Inquiry.Text.Csv

abbrev Row := List (List Char)

abbrev Table := List Row

inductive Place where
  | start
  | bare
  | quoted
  /-- After a quote inside quotes, which ends the cell unless another one follows. -/
  | closed
deriving DecidableEq

/-- What has been read: the tables before this one, its rows, the cells of the last row and the
characters of the last cell. -/
structure Reader where
  place : Place
  cell : List Char
  row : Row
  table : Table
  tables : List Table

namespace Reader

def endCell (reader : Reader) : Reader :=
  ⟨.start, [], reader.row ++ [reader.cell], reader.table, reader.tables⟩

def endRow (reader : Reader) : Reader :=
  ⟨.start, [], [], reader.table ++ [reader.row ++ [reader.cell]], reader.tables⟩

def endTable (reader : Reader) : Reader :=
  ⟨.start, [], [], [], reader.tables ++ [reader.table]⟩

def AtLine (reader : Reader) : Prop := reader.place = .start ∧ reader.row = []

instance (reader : Reader) : Decidable reader.AtLine := inferInstanceAs (Decidable (_ ∧ _))

def endLine (reader : Reader) : Reader :=
  if reader.AtLine then reader.endTable else reader.endRow

def outside (reader : Reader) (char : Char) : Option Reader :=
  if char = ',' then some reader.endCell
  else if char = '\n' then some reader.endLine
  else if reader.place = .closed ∨ char = '"' ∨ char = '\r' then none
  else some { reader with place := .bare, cell := reader.cell ++ [char] }

def step (reader : Reader) (char : Char) : Option Reader :=
  match reader.place with
  | .start => if char = '"' then some { reader with place := .quoted } else reader.outside char
  | .bare => reader.outside char
  | .quoted =>
    if char = '"' then some { reader with place := .closed }
    else some { reader with cell := reader.cell ++ [char] }
  | .closed =>
    if char = '"' then some { reader with place := .quoted, cell := reader.cell ++ ['"'] }
    else reader.outside char

def run (reader : Reader) (text : List Char) : Option Reader := text.foldlM step reader

def finish (reader : Reader) : Option (List Table) :=
  if reader.AtLine then some (reader.tables ++ [reader.table]) else none

end Reader

def read (text : List Char) : Option (List Table) :=
  (Reader.run ⟨.start, [], [], [], []⟩ text).bind Reader.finish

theorem isSpecial_eq_false_iff {char : Char} :
    isSpecial char = false ↔ char ≠ ',' ∧ char ≠ '"' ∧ char ≠ '\n' ∧ char ≠ '\r' := by
  simp [isSpecial, and_assoc]

namespace Reader

@[simp] theorem run_nil (reader : Reader) : reader.run [] = some reader := rfl

@[simp] theorem run_cons (reader : Reader) (char : Char) (text : List Char) :
    reader.run (char :: text) = (reader.step char).bind fun next => next.run text := by
  simp [run]

@[simp] theorem run_append (reader : Reader) (text more : List Char) :
    reader.run (text ++ more) = (reader.run text).bind fun next => next.run more := by
  simp [run]

section Cells

variable {cell text : List Char} {row : Row} {table : Table} {tables : List Table}

theorem step_plain {place : Place} {char : Char} (unquoted : place = .start ∨ place = .bare)
    (plain : isSpecial char = false) :
    step ⟨place, cell, row, table, tables⟩ char =
      some ⟨.bare, cell ++ [char], row, table, tables⟩ := by
  obtain ⟨notComma, notQuote, notBreak, notReturn⟩ := isSpecial_eq_false_iff.mp plain
  rcases unquoted with rfl | rfl <;> simp [step, outside, notComma, notQuote, notBreak, notReturn]

theorem run_plain (plain : ∀ char ∈ text, isSpecial char = false) :
    run ⟨.bare, cell, row, table, tables⟩ text =
      some ⟨.bare, cell ++ text, row, table, tables⟩ := by
  induction text generalizing cell with
  | nil => simp
  | cons char rest ih =>
    obtain ⟨first, later⟩ := List.forall_mem_cons.mp plain
    simp [step_plain (.inr rfl) first, ih later]

theorem run_doubled :
    run ⟨.quoted, cell, row, table, tables⟩ (text.flatMap quoteDoubled) =
      some ⟨.quoted, cell ++ text, row, table, tables⟩ := by
  induction text generalizing cell with
  | nil => simp
  | cons char rest ih =>
    have once : run ⟨.quoted, cell, row, table, tables⟩ (quoteDoubled char) =
        some ⟨.quoted, cell ++ [char], row, table, tables⟩ := by
      by_cases quote : char = '"' <;> simp [quoteDoubled, quote, step]
    simp [once, ih]

theorem run_cell (text : List Char) (row : Row) (table : Table) (tables : List Table) :
    ∃ place, (place = .start ∧ text = [] ∨ place = .bare ∨ place = .closed) ∧
      run ⟨.start, [], row, table, tables⟩ (Csv.cell text) =
        some ⟨place, text, row, table, tables⟩ := by
  by_cases special : text.any isSpecial
  · refine ⟨.closed, .inr (.inr rfl), ?_⟩
    simp [Csv.cell, special, quotedCell, run_doubled, step]
  · have plain : ∀ char ∈ text, isSpecial char = false := by simpa using special
    cases text with
    | nil => exact ⟨.start, .inl ⟨rfl, rfl⟩, rfl⟩
    | cons char rest =>
      obtain ⟨first, later⟩ := List.forall_mem_cons.mp plain
      refine ⟨.bare, .inr (.inl rfl), ?_⟩
      simp [Csv.cell, special, step_plain (.inl rfl) first, run_plain later]

theorem run_cell_comma (text : List Char) (row : Row) (table : Table) (tables : List Table) :
    run ⟨.start, [], row, table, tables⟩ (Csv.cell text ++ [',']) =
      some ⟨.start, [], row ++ [text], table, tables⟩ := by
  obtain ⟨place, ended, ran⟩ := run_cell text row table tables
  rcases ended with ⟨rfl, -⟩ | rfl | rfl <;> simp [ran, step, outside, endCell]

theorem run_cell_lineFeed (notBlank : row ++ [text] ≠ [[]]) :
    run ⟨.start, [], row, table, tables⟩ (Csv.cell text ++ ['\n']) =
      some ⟨.start, [], [], table ++ [row ++ [text]], tables⟩ := by
  obtain ⟨place, ended, ran⟩ := run_cell text row table tables
  rcases ended with ⟨rfl, rfl⟩ | rfl | rfl
  · have within : row ≠ [] := by simpa using notBlank
    simp [ran, step, outside, endLine, AtLine, within, endRow]
  · simp [ran, step, outside, endLine, AtLine, endRow]
  · simp [ran, step, outside, endLine, AtLine, endRow]

theorem run_cells {cells : Row} (nonempty : cells ≠ []) (notBlank : row ++ cells ≠ [[]]) :
    run ⟨.start, [], row, table, tables⟩ ([','].intercalate (cells.map Csv.cell) ++ ['\n']) =
      some ⟨.start, [], [], table ++ [row ++ cells], tables⟩ := by
  induction cells generalizing row with
  | nil => exact absurd rfl nonempty
  | cons text rest ih =>
    cases rest with
    | nil => simpa using run_cell_lineFeed notBlank
    | cons next others =>
      have first := run_cell_comma text row table tables
      have later := @ih (row ++ [text]) (by simp) (by simpa using notBlank)
      have cut : [','].intercalate ((text :: next :: others).map Csv.cell) ++ ['\n'] =
          (Csv.cell text ++ [',']) ++
            ([','].intercalate ((next :: others).map Csv.cell) ++ ['\n']) := by
        simp [List.intercalate_cons_cons]
      rw [cut, run_append, first, Option.bind_some, later]
      simp

theorem run_line {cells : Row} (nonempty : cells ≠ []) :
    run ⟨.start, [], [], table, tables⟩ (line cells) =
      some ⟨.start, [], [], table ++ [cells], tables⟩ := by
  by_cases blank : cells = [[]]
  · simp [blank, line, step, outside, endLine, AtLine, endRow]
  · have plain : line cells = [','].intercalate (cells.map Csv.cell) ++ ['\n'] := by
      unfold line
      split <;> simp_all
    rw [plain]
    exact run_cells nonempty blank

theorem run_lines {rows : Table} (nonempty : ∀ cells ∈ rows, cells ≠ []) :
    run ⟨.start, [], [], table, tables⟩ (rows.flatMap line) =
      some ⟨.start, [], [], table ++ rows, tables⟩ := by
  induction rows generalizing table with
  | nil => simp
  | cons cells rest ih =>
    obtain ⟨first, later⟩ := List.forall_mem_cons.mp nonempty
    simp [run_line first, ih later]

end Cells

theorem finish_run_intercalate {blocks tables : List Table} (someBlocks : blocks ≠ [])
    (someCells : ∀ rows ∈ blocks, ∀ cells ∈ rows, cells ≠ []) :
    (run ⟨.start, [], [], [], tables⟩
      (['\n'].intercalate (blocks.map fun rows => rows.flatMap line))).bind finish =
        some (tables ++ blocks) := by
  induction blocks generalizing tables with
  | nil => exact absurd rfl someBlocks
  | cons rows rest ih =>
    obtain ⟨first, later⟩ := List.forall_mem_cons.mp someCells
    cases rest with
    | nil => simp [run_lines first, finish, AtLine]
    | cons next others =>
      have more := @ih (tables ++ [rows]) (by simp) later
      simpa [List.intercalate_cons_cons, run_lines first, step, outside, endLine, AtLine, endTable]
        using more

end Reader

theorem read_intercalate {tables : List Table} (someTables : tables ≠ [])
    (someCells : ∀ rows ∈ tables, ∀ cells ∈ rows, cells ≠ []) :
    read (['\n'].intercalate (tables.map fun rows => rows.flatMap line)) = some tables :=
  Reader.finish_run_intercalate someTables someCells

end Inquiry.Text.Csv
