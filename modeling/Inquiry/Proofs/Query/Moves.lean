import Inquiry.Proofs.Query.Grammar
import Inquiry.Proofs.Token.Scanning
import Inquiry.Query.Reading

set_option autoImplicit false

namespace Inquiry

def Batch.spanning (queries : List Query) (nonempty : queries ≠ []) : Batch :=
  ⟨queries, (queries.head nonempty).span.through (queries.getLast nonempty).span⟩

namespace Stage

-- An argument of the call may begin here.
inductive Awaits : Stage → OpenCall → Prop where
  | opened (call : OpenCall) : Awaits (.opened call) call
  | afterComma (call : OpenCall) : Awaits (.afterComma call) call

-- The call has the arguments read so far; a bare word counts unless `=` follows.
inductive Holds : Stage → OpenCall → Prop where
  | argument (call : OpenCall) : Holds (.afterArgument call) call
  | word (call : OpenCall) (word : Name) :
    Holds (.afterWord call word) (call.pushValue (.word word.text) word.span)

inductive Completes : Stage → Query → Prop where
  | called (query : Query) : Completes (.called query) query
  | selected (query : Query) : Completes (.selected query) query

end Stage

namespace Reading

inductive Moves : Reading → Token → Reading → Prop where
  | skipSemicolon (queries : List Query) (span : Span) :
    Moves ⟨queries, .between⟩ ⟨.semicolon, span⟩ ⟨queries, .between⟩
  | operation (queries : List Query) (text : String) (span : Span) :
    Moves ⟨queries, .between⟩ ⟨.identifier text, span⟩ ⟨queries, .named ⟨text, span⟩⟩
  | openCall (queries : List Query) (operation : Name) (span : Span) :
    Moves ⟨queries, .named operation⟩ ⟨.openParen, span⟩
      ⟨queries, .opened ⟨operation, span, []⟩⟩
  | closeEmpty (queries : List Query) (call : OpenCall) (span : Span) :
    Moves ⟨queries, .opened call⟩ ⟨.closeParen, span⟩ ⟨queries, .called (call.close span)⟩
  | word (queries : List Query) {stage : Stage} {call : OpenCall} (awaits : stage.Awaits call)
    (text : String) (span : Span) :
    Moves ⟨queries, stage⟩ ⟨.identifier text, span⟩ ⟨queries, .afterWord call ⟨text, span⟩⟩
  | literal (queries : List Query) {stage : Stage} {call : OpenCall} (awaits : stage.Awaits call)
    (text : String) (span : Span) :
    Moves ⟨queries, stage⟩ ⟨.literal text, span⟩
      ⟨queries, .afterArgument (call.pushValue (.literal text) span)⟩
  | equals (queries : List Query) (call : OpenCall) (key : Name) (span : Span) :
    Moves ⟨queries, .afterWord call key⟩ ⟨.equals, span⟩ ⟨queries, .afterEquals call key⟩
  | keyed (queries : List Query) (call : OpenCall) (key : Name) {kind : TokenKind} {value : Value}
    (valueOf : Grammar.ValueOf kind value) (span : Span) :
    Moves ⟨queries, .afterEquals call key⟩ ⟨kind, span⟩
      ⟨queries, .afterArgument (call.pushKeyed key value span)⟩
  | comma (queries : List Query) {stage : Stage} {call : OpenCall} (holds : stage.Holds call)
    (span : Span) : Moves ⟨queries, stage⟩ ⟨.comma, span⟩ ⟨queries, .afterComma call⟩
  | close (queries : List Query) {stage : Stage} {call : OpenCall} (holds : stage.Holds call)
    (span : Span) :
    Moves ⟨queries, stage⟩ ⟨.closeParen, span⟩ ⟨queries, .called (call.close span)⟩
  | openFields (queries : List Query) (query : Query) (span : Span) :
    Moves ⟨queries, .called query⟩ ⟨.openBrace, span⟩ ⟨queries, .selecting query span []⟩
  | skipComma (queries : List Query) (query : Query) (brace : Span) (names : List Name)
    (span : Span) :
    Moves ⟨queries, .selecting query brace names⟩ ⟨.comma, span⟩
      ⟨queries, .selecting query brace names⟩
  | field (queries : List Query) (query : Query) (brace : Span) (names : List Name)
    (text : String) (span : Span) :
    Moves ⟨queries, .selecting query brace names⟩ ⟨.identifier text, span⟩
      ⟨queries, .selecting query brace (names ++ [⟨text, span⟩])⟩
  | closeFields (queries : List Query) (query : Query) (brace : Span) {names : List Name}
    (nonempty : names ≠ []) (span : Span) :
    Moves ⟨queries, .selecting query brace names⟩ ⟨.closeBrace, span⟩
      ⟨queries, .selected (query.select brace names span)⟩
  | endQuery (queries : List Query) {stage : Stage} {query : Query}
    (completes : stage.Completes query) (span : Span) :
    Moves ⟨queries, stage⟩ ⟨.semicolon, span⟩ ⟨queries ++ [query], .between⟩

theorem Moves.step {reading next : Reading} {token : Token} (moves : reading.Moves token next) :
    reading.step token = .ok next := by
  cases moves with
  | word _ awaits | literal _ awaits => cases awaits <;> rfl
  | keyed _ _ _ valueOf => cases valueOf <;> rfl
  | comma _ holds | close _ holds => cases holds <;> rfl
  | endQuery _ completes => cases completes <;> rfl
  | closeFields _ _ _ nonempty =>
    obtain ⟨name, rest, rfl⟩ := List.exists_cons_of_ne_nil nonempty
    rfl
  | _ => rfl

theorem moves_of_step {reading next : Reading} {token : Token}
    (stepped : reading.step token = .ok next) : reading.Moves token next := by
  obtain ⟨queries, stage⟩ := reading
  obtain ⟨kind, span⟩ := token
  -- In each stage, the kinds that it refuses go away with the contradiction in `stepped`.
  cases stage with
  | between =>
    cases kind <;> cases stepped
    · exact .operation queries _ span
    · exact .skipSemicolon queries span
  | named operation =>
    cases kind <;> cases stepped
    exact .openCall queries operation span
  | opened call =>
    cases kind <;> cases stepped
    · exact .word queries (.opened call) _ span
    · exact .literal queries (.opened call) _ span
    · exact .closeEmpty queries call span
  | afterComma call =>
    cases kind <;> cases stepped
    · exact .word queries (.afterComma call) _ span
    · exact .literal queries (.afterComma call) _ span
  | afterWord call word =>
    cases kind <;> cases stepped
    · exact .close queries (.word call word) span
    · exact .equals queries call word span
    · exact .comma queries (.word call word) span
  | afterEquals call key =>
    cases kind <;> cases stepped
    · exact .keyed queries call key (.word _) span
    · exact .keyed queries call key (.literal _) span
  | afterArgument call =>
    cases kind <;> cases stepped
    · exact .close queries (.argument call) span
    · exact .comma queries (.argument call) span
  | called query =>
    cases kind <;> cases stepped
    · exact .openFields queries query span
    · exact .endQuery queries (.called query) span
  | selecting query brace names =>
    cases names <;> cases kind <;> cases stepped
    · exact .field queries query brace [] _ span
    · exact .skipComma queries query brace [] span
    · exact .field queries query brace _ _ span
    · exact .closeFields queries query brace (by simp) span
    · exact .skipComma queries query brace _ span
  | selected query =>
    cases kind <;> cases stepped
    exact .endQuery queries (.selected query) span

theorem step_eq_ok_iff {reading next : Reading} {token : Token} :
    reading.step token = .ok next ↔ reading.Moves token next :=
  ⟨moves_of_step, Moves.step⟩

inductive Reads : Reading → List Token → Reading → Prop where
  | nil (reading : Reading) : Reads reading [] reading
  | cons {reading next final : Reading} {token : Token} {rest : List Token}
    (move : reading.Moves token next) (more : next.Reads rest final) :
    Reads reading (token :: rest) final

theorem Moves.reads {reading next : Reading} {token : Token} (move : reading.Moves token next) :
    reading.Reads [token] next := .cons move (.nil next)

theorem Reads.trans {reading middle final : Reading} {first second : List Token}
    (reads : reading.Reads first middle) (more : middle.Reads second final) :
    reading.Reads (first ++ second) final := by
  induction reads with
  | nil => exact more
  | cons move _ ih => exact .cons move (ih more)

theorem resume_cons_of_isEnd_eq_false (reading : Reading) (lastEnd : Position) {token : Token}
    (rest : List Token) (before : token.kind.isEnd = false) :
    reading.resume lastEnd (token :: rest) =
      match reading.step token with
      | .ok next => next.resume token.span.stop rest
      | .error error => .error error := by
  obtain ⟨kind, span⟩ := token
  cases kind <;> first | rfl | simp [TokenKind.isEnd] at before

theorem Moves.isMalformed_eq_false {reading next : Reading} {token : Token}
    (move : reading.Moves token next) : token.kind.isMalformed = false := by
  cases move with
  | keyed _ _ _ valueOf => cases valueOf <;> rfl
  | _ => rfl

theorem Reads.isMalformed_eq_false {reading final : Reading} {tokens : List Token}
    (reads : reading.Reads tokens final) :
    ∀ token ∈ tokens, token.kind.isMalformed = false := by
  induction reads with
  | nil => simp
  | cons move _ ih => exact List.forall_mem_cons.mpr ⟨move.isMalformed_eq_false, ih⟩

-- Where the end of input is accepted, with the queries that are complete then.
inductive Ends : Reading → List Query → Prop where
  | between (queries : List Query) : Ends ⟨queries, .between⟩ queries
  | completes (queries : List Query) {stage : Stage} {query : Query}
    (completes : stage.Completes query) : Ends ⟨queries, stage⟩ (queries ++ [query])

theorem batchOf_eq_ok_iff (queries : List Query) (stop : Span) (batch : Batch) :
    batchOf queries stop = .ok batch ↔
      ∃ nonempty : queries ≠ [], batch = .spanning queries nonempty := by
  cases queries with
  | nil => simp [batchOf]
  | cons first rest =>
    have last : (rest.getLast?.getD first).span = ((first :: rest).getLast (by simp)).span := by
      rw [List.getLast_eq_getLastD, List.getLastD_eq_getLast?]
    simp [batchOf, Batch.spanning, last, eq_comm]

theorem finish_eq_ok_iff (reading : Reading) (stop : Span) (batch : Batch) :
    reading.finish stop = .ok batch ↔
      ∃ queries, ∃ nonempty : queries ≠ [],
        reading.Ends queries ∧ batch = .spanning queries nonempty := by
  constructor
  · intro finished
    obtain ⟨queries, stage⟩ := reading
    cases stage with
    | between =>
      obtain ⟨nonempty, whole⟩ := (batchOf_eq_ok_iff _ _ _).mp finished
      exact ⟨_, nonempty, .between queries, whole⟩
    | called query =>
      obtain ⟨nonempty, whole⟩ := (batchOf_eq_ok_iff _ _ _).mp finished
      exact ⟨_, nonempty, .completes queries (.called query), whole⟩
    | selected query =>
      obtain ⟨nonempty, whole⟩ := (batchOf_eq_ok_iff _ _ _).mp finished
      exact ⟨_, nonempty, .completes queries (.selected query), whole⟩
    | _ => cases finished
  · rintro ⟨queries, nonempty, ends, rfl⟩
    have whole := (batchOf_eq_ok_iff queries stop _).mpr ⟨nonempty, rfl⟩
    cases ends with
    | between => exact whole
    | completes prior completes => cases completes <;> exact whole

theorem resume_eq_ok_iff (reading : Reading) (lastEnd : Position) (tokens : List Token)
    (batch : Batch) :
    reading.resume lastEnd tokens = .ok batch ↔
      ∃ final queries, ∃ nonempty : queries ≠ [],
        reading.Reads (Token.beforeEnd tokens) final ∧ final.Ends queries
          ∧ batch = .spanning queries nonempty := by
  induction tokens generalizing reading lastEnd with
  | nil =>
    rw [resume, finish_eq_ok_iff]
    constructor
    · rintro ⟨queries, nonempty, ends, whole⟩
      exact ⟨reading, queries, nonempty, .nil reading, ends, whole⟩
    · rintro ⟨final, queries, nonempty, reads, ends, whole⟩
      cases reads
      exact ⟨queries, nonempty, ends, whole⟩
  | cons token rest ih =>
    cases before : token.kind.isEnd with
    | true =>
      have stopped : reading.resume lastEnd (token :: rest) = reading.finish token.span := by
        obtain ⟨kind, span⟩ := token
        cases kind <;> first | rfl | simp [TokenKind.isEnd] at before
      rw [stopped, finish_eq_ok_iff, Token.beforeEnd, List.takeWhile_cons_of_neg (by simp [before])]
      constructor
      · rintro ⟨queries, nonempty, ends, whole⟩
        exact ⟨reading, queries, nonempty, .nil reading, ends, whole⟩
      · rintro ⟨final, queries, nonempty, reads, ends, whole⟩
        cases reads
        exact ⟨queries, nonempty, ends, whole⟩
    | false =>
      rw [resume_cons_of_isEnd_eq_false reading lastEnd rest before, Token.beforeEnd,
        List.takeWhile_cons_of_pos (by simp [before])]
      constructor
      · intro resumed
        split at resumed
        next next stepped =>
          obtain ⟨final, queries, nonempty, reads, ends, whole⟩ := (ih next _).mp resumed
          exact ⟨final, queries, nonempty, .cons (step_eq_ok_iff.mp stepped) reads, ends, whole⟩
        next => cases resumed
      · rintro ⟨final, queries, nonempty, reads, ends, whole⟩
        cases reads with
        | cons move more =>
          rw [step_eq_ok_iff.mpr move]
          exact (ih _ _).mpr ⟨final, queries, nonempty, more, ends, whole⟩

end Reading

end Inquiry
