import Inquiry.Query
import Inquiry.Query.ParseError
import Inquiry.Token.Lexer

/-!
From tokens to batches, one token at a time. Between two tokens all that matters is which queries
are complete and how far the current one has come; each of these stages knows the tokens that can
follow it.

    batch   = query (";" query)*
    query   = operation "(" [params] ")" ["{" fields "}"]
    params  = param ("," param)*
    param   = identifier "=" value | value
    fields  = identifier+
    value   = identifier | literal

Further semicolons around the queries and commas between the fields are skipped.
-/

set_option autoImplicit false

namespace Inquiry

structure OpenCall where
  operation : Name
  paren : Span
  params : List Param

namespace OpenCall

def push (call : OpenCall) (param : Param) : OpenCall :=
  { call with params := call.params ++ [param] }

def pushValue (call : OpenCall) (value : Value) (span : Span) : OpenCall :=
  call.push ⟨none, value, span⟩

def pushKeyed (call : OpenCall) (key : Name) (value : Value) (span : Span) : OpenCall :=
  call.push ⟨some key, value, key.span.through span⟩

def close (call : OpenCall) (paren : Span) : Query :=
  ⟨call.operation, call.params, none, call.operation.span.through paren⟩

end OpenCall

def Query.select (query : Query) (openBrace : Span) (names : List Name) (closeBrace : Span) :
    Query :=
  { query with
    fields := some ⟨names, openBrace.through closeBrace⟩
    span := query.span.through closeBrace }

inductive Stage where
  | between
  | named (operation : Name)
  | opened (call : OpenCall)
  | afterComma (call : OpenCall)
  /-- A bare word, which is a key if `=` follows and a value otherwise. -/
  | afterWord (call : OpenCall) (word : Name)
  | afterEquals (call : OpenCall) (key : Name)
  | afterArgument (call : OpenCall)
  | called (query : Query)
  | selecting (query : Query) (brace : Span) (names : List Name)
  | selected (query : Query)

namespace Stage

def openDelimiter? : Stage → Option (String × Span)
  | opened call | afterComma call | afterWord call _ | afterEquals call _ | afterArgument call =>
    some ("(", call.paren)
  | selecting _ brace _ => some ("\x7b", brace)
  | between | named _ | called _ | selected _ => none

def complaint (stage : Stage) (kind : TokenKind) : String × String :=
  match stage with
  | between => ("expected operation name", "identifier")
  | named _ => ("expected '('", "'('")
  | opened _ | afterComma _ => ("expected argument", "identifier or string")
  | afterWord _ _ | afterArgument _ => ("expected ',' or ')'", "',' or ')'")
  | afterEquals _ _ => ("expected value after '='", "identifier or string")
  | called _ | selected _ => ("expected ';' or end of input", "';' or end of input")
  | selecting _ _ names =>
    match names, kind with
    | [], .closeBrace => ("expected field name", "identifier")
    | _, _ => ("expected field name or '\x7d'", "identifier or '\x7d'")

def prematureEnd (stage : Stage) (span : Span) : ParseError :=
  let (message, expected) := stage.complaint .endOfInput
  match stage.openDelimiter? with
  | some (delimiter, opening) =>
    ⟨s!"{message} (unclosed '{delimiter}' opened at {opening.start.display})", span,
      .unclosedDelimiter delimiter, "end of input", some expected⟩
  | none => ⟨message, span, .unexpectedEnd [expected], "end of input", some expected⟩

def unexpected (stage : Stage) (token : Token) : ParseError :=
  match token.kind with
  | .malformed message got => .ofMalformed message token.span got
  | .endOfInput => stage.prematureEnd token.span
  | kind =>
    let (message, expected) := stage.complaint kind
    ⟨message, token.span, .unexpectedToken [expected] kind.describe, kind.sourceText,
      some expected⟩

end Stage

structure Reading where
  queries : List Query
  stage : Stage

namespace Reading

def start : Reading := ⟨[], .between⟩

def enter (reading : Reading) (stage : Stage) : Reading := { reading with stage }

def finishQuery (reading : Reading) (query : Query) : Reading :=
  ⟨reading.queries ++ [query], .between⟩

def step (reading : Reading) (token : Token) : Except ParseError Reading :=
  let refuse := .error (reading.stage.unexpected token)
  match reading.stage with
  | .between =>
    match token.kind with
    | .semicolon => .ok reading
    | .identifier name => .ok (reading.enter (.named ⟨name, token.span⟩))
    | _ => refuse
  | .named operation =>
    match token.kind with
    | .openParen => .ok (reading.enter (.opened ⟨operation, token.span, []⟩))
    | _ => refuse
  | .opened call =>
    match token.kind with
    | .closeParen => .ok (reading.enter (.called (call.close token.span)))
    | .identifier text => .ok (reading.enter (.afterWord call ⟨text, token.span⟩))
    | .literal text =>
      .ok (reading.enter (.afterArgument (call.pushValue (.literal text) token.span)))
    | _ => refuse
  | .afterComma call =>
    match token.kind with
    | .identifier text => .ok (reading.enter (.afterWord call ⟨text, token.span⟩))
    | .literal text =>
      .ok (reading.enter (.afterArgument (call.pushValue (.literal text) token.span)))
    | _ => refuse
  | .afterWord call word =>
    let complete := call.pushValue (.word word.text) word.span
    match token.kind with
    | .equals => .ok (reading.enter (.afterEquals call word))
    | .comma => .ok (reading.enter (.afterComma complete))
    | .closeParen => .ok (reading.enter (.called (complete.close token.span)))
    | _ => refuse
  | .afterEquals call key =>
    match token.kind with
    | .identifier text =>
      .ok (reading.enter (.afterArgument (call.pushKeyed key (.word text) token.span)))
    | .literal text =>
      .ok (reading.enter (.afterArgument (call.pushKeyed key (.literal text) token.span)))
    | _ => refuse
  | .afterArgument call =>
    match token.kind with
    | .comma => .ok (reading.enter (.afterComma call))
    | .closeParen => .ok (reading.enter (.called (call.close token.span)))
    | _ => refuse
  | .called query =>
    match token.kind with
    | .openBrace => .ok (reading.enter (.selecting query token.span []))
    | .semicolon => .ok (reading.finishQuery query)
    | _ => refuse
  | .selecting query brace names =>
    match token.kind, names with
    | .comma, _ => .ok reading
    | .identifier name, _ =>
      .ok (reading.enter (.selecting query brace (names ++ [⟨name, token.span⟩])))
    | .closeBrace, _ :: _ => .ok (reading.enter (.selected (query.select brace names token.span)))
    | _, _ => refuse
  | .selected query =>
    match token.kind with
    | .semicolon => .ok (reading.finishQuery query)
    | _ => refuse

def emptyBatch (span : Span) : ParseError :=
  ⟨"empty query", span, .emptyQuery, "end of input", none⟩

def batchOf (queries : List Query) (stop : Span) : Except ParseError Batch :=
  match queries with
  | [] => .error (emptyBatch stop)
  | first :: rest => .ok ⟨queries, first.span.through ((rest.getLast?.getD first).span)⟩

def finish (reading : Reading) (stop : Span) : Except ParseError Batch :=
  match reading.stage with
  | .between => batchOf reading.queries stop
  | .called query | .selected query => batchOf (reading.queries ++ [query]) stop
  | stage => .error (stage.prematureEnd stop)

/-- Reads on through the tokens up to the end of input. If no token marks the end, it stands after
the last token, which ended at `lastEnd`. -/
def resume (reading : Reading) (lastEnd : Position) : List Token → Except ParseError Batch
  | [] => reading.finish (.emptyAt lastEnd)
  | token :: rest =>
    match token.kind with
    | .endOfInput => reading.finish token.span
    | _ =>
      match reading.step token with
      | .ok next => next.resume token.span.stop rest
      | .error error => .error error

end Reading

namespace Batch

def ofTokens (tokens : List Token) : Except ParseError Batch :=
  Reading.start.resume .origin tokens

def parse (source : String) : Except ParseError Batch := ofTokens (Token.scan source)

end Batch

end Inquiry
