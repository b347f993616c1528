
set_option autoImplicit false

namespace Inquiry.Text.Csv

def isSpecial (char : Char) : Bool :=
  char = ',' || char = '"' || char = '\n' || char = '\r'

def quoteDoubled (char : Char) : List Char := if char = '"' then ['"', '"'] else [char]

def quotedCell (text : List Char) : List Char := '"' :: text.flatMap quoteDoubled ++ ['"']

def cell (text : List Char) : List Char :=
  if text.any isSpecial then quotedCell text else text

/-- A line of cells with its line feed. A lone empty cell is quoted, so that no line is blank. -/
def line (cells : List (List Char)) : List Char :=
  match cells with
  | [] | [[]] => ['"', '"', '\n']
  | _ => [','].intercalate (cells.map cell) ++ ['\n']

end Inquiry.Text.Csv
