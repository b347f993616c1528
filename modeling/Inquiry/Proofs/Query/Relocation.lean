import Inquiry.Proofs.Query.Moves

set_option autoImplicit false

namespace Inquiry

variable (move : Position → Position)

def Span.relocate (span : Span) : Span := ⟨move span.start, move span.stop⟩

def Token.relocate (token : Token) : Token := ⟨token.kind, token.span.relocate move⟩

def Name.relocate (name : Name) : Name := ⟨name.text, name.span.relocate move⟩

@[simp] theorem Token.relocate_mk (kind : TokenKind) (span : Span) :
    relocate move ⟨kind, span⟩ = ⟨kind, span.relocate move⟩ := rfl

@[simp] theorem Name.relocate_mk (text : String) (span : Span) :
    relocate move ⟨text, span⟩ = ⟨text, span.relocate move⟩ := rfl

def Param.relocate (param : Param) : Param :=
  ⟨param.key.map (Name.relocate move), param.value, param.span.relocate move⟩

def FieldSpec.relocate (spec : FieldSpec) : FieldSpec :=
  ⟨spec.names.map (Name.relocate move), spec.span.relocate move⟩

def Query.relocate (query : Query) : Query :=
  ⟨query.operation.relocate move, query.params.map (Param.relocate move),
    query.fields.map (FieldSpec.relocate move), query.span.relocate move⟩

namespace OpenCall

def relocate (call : OpenCall) : OpenCall :=
  ⟨call.operation.relocate move, call.paren.relocate move, call.params.map (Param.relocate move)⟩

@[simp] theorem relocate_pushValue (call : OpenCall) (value : Value) (span : Span) :
    (call.pushValue value span).relocate move =
      (call.relocate move).pushValue value (span.relocate move) := by
  simp [relocate, pushValue, push, Param.relocate]

@[simp] theorem relocate_pushKeyed (call : OpenCall) (key : Name) (value : Value) (span : Span) :
    (call.pushKeyed key value span).relocate move =
      (call.relocate move).pushKeyed (key.relocate move) value (span.relocate move) := by
  simp [relocate, pushKeyed, push, Param.relocate, Name.relocate, Span.relocate, Span.through]

end OpenCall

theorem Query.call_relocate (query : Query) : (query.relocate move).call = query.call := by
  simp [call, relocate, Name.relocate, FieldSpec.relocate, Param.argument, Param.relocate,
    Function.comp_def]

namespace Stage

@[simp] def relocate : Stage → Stage
  | between => between
  | named operation => named (operation.relocate move)
  | opened call => opened (call.relocate move)
  | afterComma call => afterComma (call.relocate move)
  | afterWord call word => afterWord (call.relocate move) (word.relocate move)
  | afterEquals call key => afterEquals (call.relocate move) (key.relocate move)
  | afterArgument call => afterArgument (call.relocate move)
  | called query => called (query.relocate move)
  | selecting query brace names =>
    selecting (query.relocate move) (brace.relocate move) (names.map (Name.relocate move))
  | selected query => selected (query.relocate move)

variable {move}

theorem Awaits.relocate {stage : Stage} {call : OpenCall} (awaits : stage.Awaits call) :
    (stage.relocate move).Awaits (call.relocate move) := by
  cases awaits with
  | opened => exact .opened _
  | afterComma => exact .afterComma _

theorem Holds.relocate {stage : Stage} {call : OpenCall} (holds : stage.Holds call) :
    (stage.relocate move).Holds (call.relocate move) := by
  cases holds with
  | argument => exact .argument _
  | word call word =>
    rw [OpenCall.relocate_pushValue]
    exact .word _ _

theorem Completes.relocate {stage : Stage} {query : Query} (completes : stage.Completes query) :
    (stage.relocate move).Completes (query.relocate move) := by
  cases completes with
  | called => exact .called _
  | selected => exact .selected _

end Stage

namespace Reading

def relocate (reading : Reading) : Reading :=
  ⟨reading.queries.map (Query.relocate move), reading.stage.relocate move⟩

@[simp] theorem relocate_mk (queries : List Query) (stage : Stage) :
    relocate move ⟨queries, stage⟩ = ⟨queries.map (Query.relocate move), stage.relocate move⟩ := rfl

variable {move} in
theorem Moves.relocate {reading next : Reading} {token : Token} (moves : reading.Moves token next) :
    (reading.relocate move).Moves (token.relocate move) (next.relocate move) := by
  cases moves with
  | skipSemicolon => exact .skipSemicolon _ _
  | operation => exact .operation _ _ _
  | openCall => exact .openCall _ _ _
  | closeEmpty => exact .closeEmpty _ _ _
  | word _ awaits => exact .word _ awaits.relocate _ _
  | literal _ awaits text span =>
    simpa using Moves.literal _ awaits.relocate text (span.relocate move)
  | equals => exact .equals _ _ _ _
  | keyed _ call key valueOf span =>
    simpa using Moves.keyed _ (call.relocate move) (key.relocate move) valueOf (span.relocate move)
  | comma _ holds => exact .comma _ holds.relocate _
  | close _ holds => exact .close _ holds.relocate _
  | openFields => exact .openFields _ _ _
  | skipComma => exact .skipComma _ _ _ _ _
  | field _ query brace names text span =>
    simpa using Moves.field _ _ (brace.relocate move) _ text (span.relocate move)
  | closeFields _ query brace nonempty span =>
    exact .closeFields _ _ _ (by simpa using nonempty) _
  | endQuery queries completes span =>
    simpa using Moves.endQuery _ completes.relocate (span.relocate move)

theorem Reads.relocate {reading final : Reading} {tokens : List Token}
    (reads : reading.Reads tokens final) :
    (reading.relocate move).Reads (tokens.map (Token.relocate move)) (final.relocate move) := by
  induction reads with
  | nil => exact .nil _
  | cons moves _ ih => exact .cons moves.relocate ih

def after (queries : List Query) (reading : Reading) : Reading :=
  ⟨queries ++ reading.queries, reading.stage⟩

theorem Moves.after {reading next : Reading} {token : Token} (moves : reading.Moves token next)
    (queries : List Query) : (reading.after queries).Moves token (next.after queries) := by
  cases moves with
  | endQuery prior completes span =>
    simpa [Reading.after] using Moves.endQuery (queries ++ prior) completes span
  | closeEmpty => exact .closeEmpty _ _ _
  | word _ awaits => exact .word _ awaits _ _
  | literal _ awaits => exact .literal _ awaits _ _
  | keyed _ _ _ valueOf => exact .keyed _ _ _ valueOf _
  | comma _ holds => exact .comma _ holds _
  | close _ holds => exact .close _ holds _
  | closeFields _ _ _ nonempty => exact .closeFields _ _ _ nonempty _
  | _ => constructor

theorem Reads.after {reading final : Reading} {tokens : List Token}
    (reads : reading.Reads tokens final) (queries : List Query) :
    (reading.after queries).Reads tokens (final.after queries) := by
  induction reads with
  | nil => exact .nil _
  | cons moves _ ih => exact .cons (moves.after queries) ih

end Reading

end Inquiry
