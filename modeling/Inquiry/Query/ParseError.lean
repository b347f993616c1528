import Inquiry.Source.LineIndex
import Inquiry.Token

set_option autoImplicit false

namespace Inquiry

inductive ParseErrorKind where
  | unexpectedToken (expected : List String) (found : String)
  | unexpectedEnd (expected : List String)
  | lexical
  | unclosedDelimiter (delimiter : String)
  | emptyQuery
deriving DecidableEq

def ParseErrorKind.describe : ParseErrorKind → String
  | unexpectedToken _ found => s!"unexpected token: `{found}`"
  | unexpectedEnd _ => "unexpected end of input"
  | lexical => "lexer error"
  | unclosedDelimiter delimiter => s!"unclosed delimiter: `{delimiter}`"
  | emptyQuery => "empty query"

structure ParseError where
  message : String
  span : Span
  kind : ParseErrorKind
  got : String
  expected : Option String
deriving DecidableEq

namespace ParseError

def ofMalformed (message : String) (span : Span) (got : String) : ParseError :=
  ⟨message, span, .lexical, got, none⟩

def position (error : ParseError) : Position := error.span.start

def oneLine (error : ParseError) : String :=
  let summary := s!"{error.position.display}: error: {error.message}"
  if error.got.isEmpty then summary else s!"{summary} (got {Text.quoted error.got})"

def blanks (count : Nat) : String := String.ofList (List.replicate count ' ')

/-- The carets begin at the column of the error. An error over several lines has one caret. -/
def caretCount (span : Span) : Nat :=
  let stop := if span.stop.line = span.start.line then span.stop.column else span.start.column
  max 1 (stop - span.start.column)

/-- The widest margin that text can be set off by. -/
def widestMargin : Nat := 65535

/-- A line of the source under its number, and carets below it that begin at a column. Nothing can
be set that far off if the column is too wide. -/
def underline? (number : Nat) (line : List Char) (column carets : Nat) : Option String :=
  let digits := toString number
  let width := max 2 digits.length
  let row := String.ofList (List.replicate carets '^')
  if column ≤ widestMargin then
    some (s!"{blanks width} |\n"
      ++ s!"{blanks (width - digits.length)}{digits} | {String.ofList line}\n"
      ++ s!"{blanks width} | {blanks column}{row}\n")
  else none

def snippet? (error : ParseError) (source : String) : Option String :=
  match (LineIndex.ofSource source).lineText? error.position.line with
  | some line =>
    underline? error.position.displayLine line error.position.column (caretCount error.span)
  | none => some ""

def heading (error : ParseError) : String :=
  s!"error: {error.message}\n" ++ s!"  --> <query>:{error.position.display}\n"

def expectation (error : ParseError) : String :=
  match error.expected with
  | some expected => s!"   = expected: {expected}\n"
  | none => ""

/-- The error over several lines, with a snippet if the source is given. There is no result if the
error begins too far to the right for its snippet. -/
def detailed? (error : ParseError) (source? : Option String) : Option String := do
  let snippet ← match source? with
    | some source => error.snippet? source
    | none => some ""
  return error.heading ++ snippet ++ error.expectation

end ParseError

end Inquiry
