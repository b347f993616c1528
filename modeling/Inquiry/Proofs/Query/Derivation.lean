import Inquiry.Proofs.Query.Moves

set_option autoImplicit false

namespace Inquiry

open Grammar

theorem Query.call_select (query : Query) (openBrace : Span) (names : List Name) (closeBrace : Span) :
    (query.select openBrace names closeBrace).call =
      { query.call with fields := some (names.map Name.text) } := rfl

namespace Placed

inductive ParamOf : List Token → Param → Prop where
  | positional {kind : TokenKind} {value : Value} (valueOf : ValueOf kind value) (span : Span) :
    ParamOf [⟨kind, span⟩] ⟨none, value, span⟩
  | keyed (key : Name) (equals : Span) {kind : TokenKind} {value : Value}
    (valueOf : ValueOf kind value) (span : Span) :
    ParamOf [⟨.identifier key.text, key.span⟩, ⟨.equals, equals⟩, ⟨kind, span⟩]
      ⟨some key, value, key.span.through span⟩

inductive ParamsOf : List Token → List Param → Prop where
  | one {tokens : List Token} {param : Param} (paramOf : ParamOf tokens param) :
    ParamsOf tokens [param]
  | snoc {tokens more : List Token} {params : List Param} {param : Param}
    (before : ParamsOf tokens params) (comma : Span) (last : ParamOf more param) :
    ParamsOf (tokens ++ ⟨.comma, comma⟩ :: more) (params ++ [param])

inductive NamesOf : List Token → List Name → Prop where
  | nil : NamesOf [] []
  | comma {tokens : List Token} {names : List Name} (before : NamesOf tokens names)
    (span : Span) : NamesOf (tokens ++ [⟨.comma, span⟩]) names
  | name {tokens : List Token} {names : List Name} (before : NamesOf tokens names) (name : Name) :
    NamesOf (tokens ++ [⟨.identifier name.text, name.span⟩]) (names ++ [name])

inductive CallOf : List Token → Query → Prop where
  | empty (operation : Name) (paren closing : Span) :
    CallOf [⟨.identifier operation.text, operation.span⟩, ⟨.openParen, paren⟩,
      ⟨.closeParen, closing⟩] ⟨operation, [], none, operation.span.through closing⟩
  | params (operation : Name) (paren closing : Span) {tokens : List Token} {params : List Param}
    (paramsOf : ParamsOf tokens params) :
    CallOf (⟨.identifier operation.text, operation.span⟩ :: ⟨.openParen, paren⟩ :: tokens
      ++ [⟨.closeParen, closing⟩]) ⟨operation, params, none, operation.span.through closing⟩

inductive QueryOf : List Token → Query → Prop where
  | bare {tokens : List Token} {query : Query} (callOf : CallOf tokens query) :
    QueryOf tokens query
  | selecting {tokens listed : List Token} {query : Query} {names : List Name}
    (callOf : CallOf tokens query) (brace : Span) (namesOf : NamesOf listed names)
    (nonempty : names ≠ []) (closing : Span) :
    QueryOf (tokens ++ ⟨.openBrace, brace⟩ :: listed ++ [⟨.closeBrace, closing⟩])
      (query.select brace names closing)

def Semicolons (tokens : List Token) : Prop := ∀ token ∈ tokens, token.kind = .semicolon

inductive QueriesOf : List Token → List Query → Prop where
  | one {tokens : List Token} {query : Query} (queryOf : QueryOf tokens query) :
    QueriesOf tokens [query]
  | snoc {tokens more gap : List Token} {queries : List Query} {query : Query}
    (before : QueriesOf tokens queries) (semicolons : Semicolons gap) (nonempty : gap ≠ [])
    (last : QueryOf more query) : QueriesOf (tokens ++ gap ++ more) (queries ++ [query])

/-- Queries of which each, even the last, is followed by a semicolon. -/
inductive EndedOf : List Token → List Query → Prop where
  | none {tokens : List Token} (semicolons : Semicolons tokens) : EndedOf tokens []
  | some {leading tokens trailing : List Token} {queries : List Query}
    (leadingOf : Semicolons leading) (queriesOf : QueriesOf tokens queries)
    (trailingOf : Semicolons trailing) (nonempty : trailing ≠ []) :
    EndedOf (leading ++ tokens ++ trailing) queries

def BatchOf (tokens : List Token) (queries : List Query) : Prop :=
  ∃ leading inner trailing, tokens = leading ++ inner ++ trailing ∧ Semicolons leading
    ∧ QueriesOf inner queries ∧ Semicolons trailing

theorem ParamOf.argumentOf {tokens : List Token} {param : Param} (paramOf : ParamOf tokens param) :
    ArgumentOf (tokens.map Token.kind) param.argument := by
  cases paramOf with
  | positional valueOf => exact .positional valueOf
  | keyed key _ valueOf => exact .keyed key.text valueOf

theorem ParamsOf.argumentsOf {tokens : List Token} {params : List Param}
    (paramsOf : ParamsOf tokens params) :
    params ≠ [] ∧ ArgumentsOf (tokens.map Token.kind) (params.map Param.argument) := by
  induction paramsOf with
  | one paramOf => exact ⟨by simp, .one paramOf.argumentOf⟩
  | snoc _ _ last ih =>
    obtain ⟨nonempty, argumentsOf⟩ := ih
    exact ⟨by simp, by simpa using argumentsOf.snoc (by simpa using nonempty) last.argumentOf⟩

theorem NamesOf.namesOf {tokens : List Token} {names : List Name} (namesOf : NamesOf tokens names) :
    Grammar.NamesOf (tokens.map Token.kind) (names.map Name.text) := by
  induction namesOf with
  | nil => exact .nil
  | comma _ _ ih => simpa using ih.append (.comma .nil)
  | name _ name ih => simpa using ih.append (.name name.text .nil)

theorem CallOf.fields_eq_none {tokens : List Token} {query : Query}
    (callOf : CallOf tokens query) : query.fields = none := by
  cases callOf <;> rfl

theorem CallOf.queryOf {tokens : List Token} {query : Query} (callOf : CallOf tokens query) :
    Grammar.QueryOf (tokens.map Token.kind) query.call := by
  cases callOf with
  | empty operation => exact .call operation.text .none .absent
  | params operation _ _ paramsOf =>
    simpa [Query.call] using Grammar.QueryOf.call operation.text paramsOf.argumentsOf.2 .absent

theorem QueryOf.queryOf {tokens : List Token} {query : Query} (queryOf : QueryOf tokens query) :
    Grammar.QueryOf (tokens.map Token.kind) query.call := by
  cases queryOf with
  | bare callOf => exact callOf.queryOf
  | selecting callOf brace namesOf nonempty closing =>
    have fieldsOf := FieldsOf.of_names namesOf.namesOf (by simpa using nonempty)
    have selected := callOf.queryOf.select (by simp [Query.call, callOf.fields_eq_none]) fieldsOf
    rw [Query.call_select]
    simpa using selected

theorem Semicolons.map_kind {tokens : List Token} (semicolonsOf : Semicolons tokens) :
    tokens.map Token.kind = semicolons tokens.length := by
  rw [semicolons, List.eq_replicate_iff]
  exact ⟨List.length_map _, List.forall_mem_map.mpr semicolonsOf⟩

theorem QueriesOf.moreQueries {tokens : List Token} {queries : List Query}
    (queriesOf : QueriesOf tokens queries) :
    ∃ kinds rest call calls, tokens.map Token.kind = kinds ++ rest
      ∧ queries.map Query.call = call :: calls ∧ Grammar.QueryOf kinds call
      ∧ MoreQueries rest calls := by
  induction queriesOf with
  | one queryOf => exact ⟨_, [], _, [], by simp, rfl, queryOf.queryOf, .nil⟩
  | @snoc _ more gap _ query _ semicolonsOf nonempty last ih =>
    obtain ⟨kinds, rest, call, calls, sameKinds, sameCalls, first, others⟩ := ih
    obtain ⟨extra, length⟩ : ∃ extra, gap.length = extra + 1 :=
      Nat.exists_eq_add_one.mpr (List.length_pos_iff.mpr nonempty)
    refine ⟨kinds, _, call, calls ++ [query.call], ?_, by simp [sameCalls], first,
      others.snoc extra last.queryOf⟩
    simp [sameKinds, semicolonsOf.map_kind, length]

theorem BatchOf.batchOf {tokens : List Token} {queries : List Query}
    (batchOf : BatchOf tokens queries) :
    Grammar.BatchOf (tokens.map Token.kind) (queries.map Query.call) := by
  obtain ⟨leading, inner, trailing, rfl, leadingOf, queriesOf, trailingOf⟩ := batchOf
  obtain ⟨kinds, rest, call, calls, sameKinds, sameCalls, first, others⟩ := queriesOf.moreQueries
  rw [sameCalls]
  simpa [leadingOf.map_kind, trailingOf.map_kind, sameKinds] using
    Grammar.BatchOf.queries leading.length trailing.length first others

theorem Semicolons.snoc {tokens : List Token} (semicolonsOf : Semicolons tokens) (span : Span) :
    Semicolons (tokens ++ [⟨.semicolon, span⟩]) := by
  intro token member
  rcases List.mem_append.mp member with before | last
  · exact semicolonsOf token before
  · rw [List.mem_singleton.mp last]

theorem EndedOf.semicolon {tokens : List Token} {queries : List Query}
    (endedOf : EndedOf tokens queries) (span : Span) :
    EndedOf (tokens ++ [⟨.semicolon, span⟩]) queries := by
  cases endedOf with
  | none semicolonsOf => exact .none (semicolonsOf.snoc span)
  | some leadingOf queriesOf trailingOf =>
    simpa using EndedOf.some leadingOf queriesOf (trailingOf.snoc span) (by simp)

theorem EndedOf.query {tokens more : List Token} {queries : List Query} {query : Query}
    (endedOf : EndedOf tokens queries) (last : QueryOf more query) :
    BatchOf (tokens ++ more) (queries ++ [query]) := by
  cases endedOf with
  | none semicolonsOf => exact ⟨tokens, more, [], by simp, semicolonsOf, .one last, by simp [Semicolons]⟩
  | @some leading inner trailing _ leadingOf queriesOf trailingOf nonempty =>
    exact ⟨leading, inner ++ trailing ++ more, [], by simp, leadingOf,
      .snoc queriesOf trailingOf nonempty last, by simp [Semicolons]⟩

theorem EndedOf.batch {tokens : List Token} {queries : List Query}
    (endedOf : EndedOf tokens queries) (nonempty : queries ≠ []) : BatchOf tokens queries := by
  cases endedOf with
  | none => exact absurd rfl nonempty
  | some leadingOf queriesOf trailingOf => exact ⟨_, _, _, rfl, leadingOf, queriesOf, trailingOf⟩

theorem BatchOf.semicolon {tokens : List Token} {queries : List Query}
    (batchOf : BatchOf tokens queries) (span : Span) :
    EndedOf (tokens ++ [⟨.semicolon, span⟩]) queries := by
  obtain ⟨leading, inner, trailing, rfl, leadingOf, queriesOf, trailingOf⟩ := batchOf
  simpa using EndedOf.some leadingOf queriesOf (trailingOf.snoc span) (by simp)

end Placed

open Placed

namespace OpenCall

def opening (call : OpenCall) : List Token :=
  [⟨.identifier call.operation.text, call.operation.span⟩, ⟨.openParen, call.paren⟩]

@[simp] theorem opening_push (call : OpenCall) (param : Param) :
    (call.push param).opening = call.opening := rfl

-- The tokens of a call whose last parameter is complete.
inductive Holding (call : OpenCall) : List Token → Prop where
  | params {tokens : List Token} (paramsOf : ParamsOf tokens call.params) :
    Holding call (call.opening ++ tokens)

-- The tokens of a call whose next parameter may begin.
inductive Awaiting (call : OpenCall) : List Token → Prop where
  | opened (empty : call.params = []) : Awaiting call call.opening
  | afterComma {tokens : List Token} (holding : call.Holding tokens) (comma : Span) :
    Awaiting call (tokens ++ [⟨.comma, comma⟩])

theorem Awaiting.push {call : OpenCall} {tokens more : List Token} {param : Param}
    (awaiting : call.Awaiting tokens) (paramOf : ParamOf more param) :
    (call.push param).Holding (tokens ++ more) := by
  cases awaiting with
  | opened empty =>
    have one : ParamsOf more (call.params ++ [param]) := by simpa [empty] using ParamsOf.one paramOf
    exact Holding.params one
  | afterComma holding comma =>
    cases holding with
    | params paramsOf =>
      have longer : ParamsOf _ (call.push param).params := paramsOf.snoc comma paramOf
      simpa using Holding.params longer

theorem Holding.close {call : OpenCall} {tokens : List Token} (holding : call.Holding tokens)
    (paren : Span) : CallOf (tokens ++ [⟨.closeParen, paren⟩]) (call.close paren) := by
  cases holding with
  | params paramsOf => exact .params call.operation call.paren paren paramsOf

theorem Awaiting.close {call : OpenCall} {tokens : List Token} (awaiting : call.Awaiting tokens)
    (empty : call.params = []) (paren : Span) :
    CallOf (tokens ++ [⟨.closeParen, paren⟩]) (call.close paren) := by
  cases awaiting with
  | opened =>
    rw [OpenCall.close, empty]
    exact .empty call.operation call.paren paren
  | afterComma holding =>
    cases holding with
    | params paramsOf => exact absurd empty paramsOf.argumentsOf.1

end OpenCall

def Stage.Spells : Stage → List Token → Prop
  | .between, tokens => tokens = []
  | .named operation, tokens => tokens = [⟨.identifier operation.text, operation.span⟩]
  | .opened call, tokens => call.Awaiting tokens ∧ call.params = []
  | .afterComma call, tokens => call.Awaiting tokens
  | .afterWord call word, tokens =>
    ∃ prior, tokens = prior ++ [⟨.identifier word.text, word.span⟩] ∧ call.Awaiting prior
  | .afterEquals call key, tokens =>
    ∃ prior equals, tokens = prior ++ [⟨.identifier key.text, key.span⟩, ⟨.equals, equals⟩]
      ∧ call.Awaiting prior
  | .afterArgument call, tokens => call.Holding tokens
  | .called query, tokens => CallOf tokens query
  | .selecting query brace names, tokens =>
    ∃ closed listed, tokens = closed ++ ⟨.openBrace, brace⟩ :: listed ∧ CallOf closed query
      ∧ NamesOf listed names
  | .selected query, tokens => QueryOf tokens query

theorem Stage.Awaits.awaiting {stage : Stage} {call : OpenCall} {tokens : List Token}
    (awaits : stage.Awaits call) (spells : stage.Spells tokens) : call.Awaiting tokens := by
  cases awaits with
  | opened => exact spells.1
  | afterComma => exact spells

theorem Stage.Holds.holding {stage : Stage} {call : OpenCall} {tokens : List Token}
    (holds : stage.Holds call) (spells : stage.Spells tokens) : call.Holding tokens := by
  cases holds with
  | argument => exact spells
  | word call word =>
    obtain ⟨prior, rfl, awaiting⟩ := spells
    exact awaiting.push (.positional (.word word.text) word.span)

theorem Stage.Completes.queryOf {stage : Stage} {query : Query} {tokens : List Token}
    (completes : stage.Completes query) (spells : stage.Spells tokens) : QueryOf tokens query := by
  cases completes with
  | called => exact .bare spells
  | selected => exact spells

namespace Reading

def Spells (reading : Reading) (tokens : List Token) : Prop :=
  ∃ ended current, tokens = ended ++ current ∧ EndedOf ended reading.queries
    ∧ reading.stage.Spells current

theorem start_spells : start.Spells [] := ⟨[], [], rfl, .none (by simp [Semicolons]), rfl⟩

theorem Spells.within {queries : List Query} {stage : Stage} {token : Token}
    {ended current : List Token} (endedOf : EndedOf ended queries)
    (spells : stage.Spells (current ++ [token])) :
    Spells ⟨queries, stage⟩ (ended ++ current ++ [token]) :=
  ⟨ended, current ++ [token], by simp, endedOf, spells⟩

theorem Moves.spells {reading next : Reading} {token : Token} {tokens : List Token}
    (move : reading.Moves token next) (spells : reading.Spells tokens) :
    next.Spells (tokens ++ [token]) := by
  obtain ⟨ended, current, rfl, endedOf, spells⟩ := spells
  -- Only semicolons touch the queries that have ended; the other moves extend the current one.
  cases move with
  | skipSemicolon _ span =>
    rw [show current = [] from spells, List.append_nil]
    exact ⟨_, [], by simp, endedOf.semicolon span, rfl⟩
  | operation =>
    rw [show current = [] from spells]
    exact .within endedOf rfl
  | openCall =>
    rw [show current = _ from spells]
    exact .within endedOf ⟨.opened rfl, rfl⟩
  | closeEmpty _ call span => exact .within endedOf (spells.1.close spells.2 span)
  | word _ awaits => exact .within endedOf ⟨current, rfl, awaits.awaiting spells⟩
  | literal _ awaits text span =>
    exact .within endedOf ((awaits.awaiting spells).push (.positional (.literal text) span))
  | equals _ call key span =>
    obtain ⟨prior, rfl, awaiting⟩ := spells
    exact .within endedOf ⟨prior, span, by simp, awaiting⟩
  | keyed _ call key valueOf span =>
    obtain ⟨prior, equals, rfl, awaiting⟩ := spells
    have held := awaiting.push (.keyed key equals valueOf span)
    exact .within endedOf (by simpa [Stage.Spells, OpenCall.pushKeyed] using held)
  | comma _ holds span => exact .within endedOf (.afterComma (holds.holding spells) span)
  | close _ holds span => exact .within endedOf ((holds.holding spells).close span)
  | openFields => exact .within endedOf ⟨current, [], rfl, spells, .nil⟩
  | skipComma _ query brace names span =>
    obtain ⟨closed, listed, rfl, callOf, namesOf⟩ := spells
    exact .within endedOf ⟨closed, _, by simp, callOf, namesOf.comma span⟩
  | field _ query brace names text span =>
    obtain ⟨closed, listed, rfl, callOf, namesOf⟩ := spells
    exact .within endedOf ⟨closed, _, by simp, callOf, namesOf.name ⟨text, span⟩⟩
  | closeFields _ query brace nonempty span =>
    obtain ⟨closed, listed, rfl, callOf, namesOf⟩ := spells
    exact .within endedOf (.selecting callOf brace namesOf nonempty span)
  | endQuery queries completes span =>
    have complete := endedOf.query (completes.queryOf spells)
    exact ⟨ended ++ current ++ [⟨.semicolon, span⟩], [], by simp, complete.semicolon span, rfl⟩

theorem Reads.spells {reading final : Reading} {tokens before : List Token}
    (reads : reading.Reads tokens final) (spells : reading.Spells before) :
    final.Spells (before ++ tokens) := by
  induction reads generalizing before with
  | nil => simpa using spells
  | cons move _ ih => simpa using ih (move.spells spells)

theorem Ends.placed {reading : Reading} {queries : List Query} {tokens : List Token}
    (ends : reading.Ends queries) (nonempty : queries ≠ []) (spells : reading.Spells tokens) :
    BatchOf tokens queries := by
  obtain ⟨ended, current, rfl, endedOf, spells⟩ := spells
  cases ends with
  | between =>
    rw [show current = [] from spells, List.append_nil]
    exact endedOf.batch nonempty
  | completes prior completes => exact endedOf.query (completes.queryOf spells)

end Reading

theorem Batch.placed_of_ofTokens {tokens : List Token} {batch : Batch}
    (parsed : ofTokens tokens = .ok batch) :
    Placed.BatchOf (Token.beforeEnd tokens) batch.queries
      ∧ ∃ nonempty, batch = .spanning batch.queries nonempty := by
  obtain ⟨final, queries, nonempty, reads, ends, rfl⟩ :=
    (Reading.resume_eq_ok_iff _ _ _ _).mp parsed
  exact ⟨ends.placed nonempty (reads.spells Reading.start_spells), nonempty, rfl⟩

end Inquiry
