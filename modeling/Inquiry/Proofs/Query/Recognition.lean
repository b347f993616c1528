import Inquiry.Proofs.Query.Derivation
import Inquiry.Proofs.Token.Characters

set_option autoImplicit false

namespace Inquiry

open Grammar

namespace OpenCall

def arguments (call : OpenCall) : List Argument := call.params.map Param.argument

theorem call_close (call : OpenCall) (paren : Span) :
    (call.close paren).call = ⟨call.operation.text, call.arguments, none⟩ := rfl

@[simp] theorem arguments_push (call : OpenCall) (param : Param) :
    (call.push param).arguments = call.arguments ++ [param.argument] := by
  simp [arguments, push]

end OpenCall

namespace Reading

theorem tokens_of_kind_cons {tokens : List Token} {kind : TokenKind} {kinds : List TokenKind}
    (same : tokens.map Token.kind = kind :: kinds) :
    ∃ span rest, tokens = ⟨kind, span⟩ :: rest ∧ rest.map Token.kind = kinds := by
  obtain ⟨⟨_, span⟩, rest, rfl, rfl, restSame⟩ := List.map_eq_cons_iff.mp same
  exact ⟨span, rest, rfl, restSame⟩

theorem token_of_kind {tokens : List Token} {kind : TokenKind}
    (same : tokens.map Token.kind = [kind]) : ∃ span, tokens = [⟨kind, span⟩] := by
  obtain ⟨span, rest, rfl, restSame⟩ := tokens_of_kind_cons same
  obtain rfl := List.map_eq_nil_iff.mp restSame
  exact ⟨span, rfl⟩

-- Whether a word is a value or a key is open until the token after it.
theorem reads_argument (queries : List Query) {stage : Stage} {call : OpenCall}
    (awaits : stage.Awaits call) {kinds : List TokenKind} {argument : Argument}
    (argumentOf : ArgumentOf kinds argument) {tokens : List Token}
    (same : tokens.map Token.kind = kinds) :
    ∃ param next, param.argument = argument ∧ next.Holds (call.push param)
      ∧ Reads ⟨queries, stage⟩ tokens ⟨queries, next⟩ := by
  cases argumentOf with
  | positional valueOf =>
    obtain ⟨span, rfl⟩ := token_of_kind same
    cases valueOf with
    | word text => exact ⟨_, _, rfl, .word call ⟨text, span⟩, (Moves.word _ awaits _ _).reads⟩
    | literal text => exact ⟨_, _, rfl, .argument _, (Moves.literal _ awaits _ _).reads⟩
  | keyed key valueOf =>
    obtain ⟨keySpan, _, rfl, afterKey⟩ := tokens_of_kind_cons same
    obtain ⟨equalsSpan, _, rfl, afterEquals⟩ := tokens_of_kind_cons afterKey
    obtain ⟨span, rfl⟩ := token_of_kind afterEquals
    refine ⟨⟨some ⟨key, keySpan⟩, _, keySpan.through span⟩, _, rfl, .argument _, ?_⟩
    exact .cons (.word _ awaits key keySpan) (.cons (.equals _ _ _ _)
      (Moves.keyed _ _ _ valueOf span).reads)

theorem reads_moreArguments (queries : List Query) {kinds : List TokenKind}
    {arguments : List Argument} (more : MoreArguments kinds arguments) {stage : Stage}
    {call : OpenCall} (holds : stage.Holds call) {tokens : List Token}
    (same : tokens.map Token.kind = kinds) :
    ∃ full next, full.operation = call.operation
      ∧ full.arguments = call.arguments ++ arguments ∧ next.Holds full
      ∧ Reads ⟨queries, stage⟩ tokens ⟨queries, next⟩ := by
  induction more generalizing stage call tokens with
  | nil =>
    obtain rfl := List.map_eq_nil_iff.mp same
    exact ⟨call, stage, rfl, by simp, holds, .nil _⟩
  | cons first _ ih =>
    obtain ⟨span, tail, rfl, tailSame⟩ := tokens_of_kind_cons same
    obtain ⟨head, rest, rfl, headSame, restSame⟩ := List.map_eq_append_iff.mp tailSame
    obtain ⟨param, next, rfl, nextHolds, firstReads⟩ :=
      reads_argument queries (.afterComma call) first headSame
    obtain ⟨full, last, sameName, sameArguments, lastHolds, restReads⟩ := ih nextHolds restSame
    refine ⟨full, last, sameName, by simpa using sameArguments, lastHolds, ?_⟩
    exact .cons (.comma _ holds span) (firstReads.trans restReads)

theorem reads_arguments (queries : List Query) (operation : Name) (paren : Span)
    {kinds : List TokenKind} {arguments : List Argument}
    (argumentsOf : ArgumentsOf kinds arguments) {tokens : List Token}
    (same : tokens.map Token.kind = kinds ++ [.closeParen]) :
    ∃ query, query.call = ⟨operation.text, arguments, none⟩
      ∧ Reads ⟨queries, .opened ⟨operation, paren, []⟩⟩ tokens ⟨queries, .called query⟩ := by
  obtain ⟨body, last, rfl, bodySame, lastSame⟩ := List.map_eq_append_iff.mp same
  obtain ⟨span, rfl⟩ := token_of_kind lastSame
  cases argumentsOf with
  | none =>
    obtain rfl := List.map_eq_nil_iff.mp bodySame
    exact ⟨_, rfl, (Moves.closeEmpty _ _ span).reads⟩
  | some first more =>
    obtain ⟨head, rest, rfl, headSame, restSame⟩ := List.map_eq_append_iff.mp bodySame
    obtain ⟨param, next, rfl, nextHolds, firstReads⟩ :=
      reads_argument queries (.opened ⟨operation, paren, []⟩) first headSame
    obtain ⟨full, last, sameName, sameArguments, lastHolds, restReads⟩ :=
      reads_moreArguments queries more nextHolds restSame
    refine ⟨full.close span, ?_, (firstReads.trans restReads).trans
      (Moves.close _ lastHolds span).reads⟩
    rw [OpenCall.call_close, sameName, sameArguments]
    rfl

theorem reads_names (queries : List Query) (query : Query) (brace : Span)
    {kinds : List TokenKind} {texts : List String} (namesOf : NamesOf kinds texts)
    (before : List Name) {tokens : List Token} (same : tokens.map Token.kind = kinds) :
    ∃ names : List Name, names.map Name.text = texts
      ∧ Reads ⟨queries, .selecting query brace before⟩ tokens
        ⟨queries, .selecting query brace (before ++ names)⟩ := by
  induction namesOf generalizing before tokens with
  | nil =>
    obtain rfl := List.map_eq_nil_iff.mp same
    exact ⟨[], rfl, by simpa using Reads.nil _⟩
  | comma _ ih =>
    obtain ⟨span, rest, rfl, restSame⟩ := tokens_of_kind_cons same
    obtain ⟨names, sameTexts, reads⟩ := ih before restSame
    exact ⟨names, sameTexts, .cons (.skipComma _ _ _ _ span) reads⟩
  | name text _ ih =>
    obtain ⟨span, rest, rfl, restSame⟩ := tokens_of_kind_cons same
    obtain ⟨names, rfl, reads⟩ := ih (before ++ [⟨text, span⟩]) restSame
    refine ⟨⟨text, span⟩ :: names, rfl, .cons (.field _ _ _ _ _ span) ?_⟩
    simpa using reads

theorem reads_fields (queries : List Query) (query : Query) {kinds : List TokenKind}
    {fields : Option (List String)} (fieldsOf : FieldsOf kinds fields)
    (bare : query.call.fields = none) {tokens : List Token}
    (same : tokens.map Token.kind = kinds) :
    ∃ stage complete, stage.Completes complete ∧ complete.call = { query.call with fields }
      ∧ Reads ⟨queries, .called query⟩ tokens ⟨queries, stage⟩ := by
  cases fieldsOf with
  | absent =>
    obtain rfl := List.map_eq_nil_iff.mp same
    exact ⟨_, query, .called query, by rw [← bare], .nil _⟩
  | listed commas text more =>
    obtain ⟨brace, tail, rfl, tailSame⟩ := tokens_of_kind_cons same
    obtain ⟨body, last, rfl, bodySame, lastSame⟩ := List.map_eq_append_iff.mp tailSame
    obtain ⟨span, rfl⟩ := token_of_kind lastSame
    have namesOf := (NamesOf.commas commas).append (.name text more)
    obtain ⟨names, sameTexts, reads⟩ := reads_names queries query brace namesOf [] bodySame
    have nonempty : names ≠ [] := by
      rintro rfl
      cases sameTexts
    refine ⟨_, query.select brace names span, .selected _, ?_, .cons (.openFields _ _ _)
      (reads.trans (Moves.closeFields _ _ _ nonempty span).reads)⟩
    rw [Query.call_select, sameTexts]
    rfl

theorem reads_query (queries : List Query) {kinds : List TokenKind} {call : Call}
    (queryOf : QueryOf kinds call) {tokens : List Token}
    (same : tokens.map Token.kind = kinds) :
    ∃ stage query, stage.Completes query ∧ query.call = call
      ∧ Reads ⟨queries, .between⟩ tokens ⟨queries, stage⟩ := by
  cases queryOf with
  | @call operation argumentKinds fieldKinds _ _ argumentsOf fieldsOf =>
    have parts : tokens.map Token.kind = .identifier operation :: .openParen ::
        ((argumentKinds ++ [.closeParen]) ++ fieldKinds) := by simpa using same
    obtain ⟨nameSpan, _, rfl, afterName⟩ := tokens_of_kind_cons parts
    obtain ⟨paren, _, rfl, afterParen⟩ := tokens_of_kind_cons afterName
    obtain ⟨body, rest, rfl, bodySame, restSame⟩ := List.map_eq_append_iff.mp afterParen
    obtain ⟨query, sameCall, callReads⟩ :=
      reads_arguments queries ⟨operation, nameSpan⟩ paren argumentsOf bodySame
    obtain ⟨stage, complete, completes, completeCall, fieldReads⟩ :=
      reads_fields queries query fieldsOf (by rw [sameCall]) restSame
    refine ⟨stage, complete, completes, by rw [completeCall, sameCall], ?_⟩
    exact .cons (.operation _ _ _) (.cons (.openCall _ _ _) (callReads.trans fieldReads))

theorem reads_semicolons (queries : List Query) {count : Nat} {tokens : List Token}
    (same : tokens.map Token.kind = semicolons count) :
    Reads ⟨queries, .between⟩ tokens ⟨queries, .between⟩ := by
  induction count generalizing tokens with
  | zero =>
    obtain rfl := List.map_eq_nil_iff.mp same
    exact .nil _
  | succ count ih =>
    obtain ⟨span, rest, rfl, restSame⟩ := tokens_of_kind_cons same
    exact .cons (.skipSemicolon _ _) (ih restSame)

theorem reads_moreSemicolons (queries : List Query) {stage : Stage} {query : Query}
    (completes : stage.Completes query) {extra : Nat} {tokens : List Token}
    (same : tokens.map Token.kind = semicolons (extra + 1)) :
    Reads ⟨queries, stage⟩ tokens ⟨queries ++ [query], .between⟩ := by
  obtain ⟨span, rest, rfl, restSame⟩ := tokens_of_kind_cons same
  exact .cons (.endQuery _ completes _) (reads_semicolons _ restSame)

-- The last query is carried apart from the others: it is complete, but nothing has ended it yet.
theorem reads_moreQueries {kinds : List TokenKind} {calls : List Call}
    (more : MoreQueries kinds calls) {queries : List Query} {stage : Stage} {query : Query}
    (completes : stage.Completes query) {tokens : List Token}
    (same : tokens.map Token.kind = kinds) :
    ∃ others last final, final.Completes last
      ∧ (others ++ [last]).map Query.call = (queries ++ [query]).map Query.call ++ calls
      ∧ Reads ⟨queries, stage⟩ tokens ⟨others, final⟩ := by
  induction more generalizing queries stage query tokens with
  | nil =>
    obtain rfl := List.map_eq_nil_iff.mp same
    exact ⟨queries, query, stage, completes, by simp, .nil _⟩
  | cons extra first _ ih =>
    obtain ⟨front, rest, rfl, frontSame, restSame⟩ := List.map_eq_append_iff.mp same
    obtain ⟨gap, head, rfl, gapSame, headSame⟩ := List.map_eq_append_iff.mp frontSame
    have gapReads := reads_moreSemicolons queries completes gapSame
    obtain ⟨next, middle, nextCompletes, rfl, headReads⟩ :=
      reads_query (queries ++ [query]) first headSame
    obtain ⟨others, last, final, finalCompletes, sameCalls, restReads⟩ :=
      ih nextCompletes restSame
    exact ⟨others, last, final, finalCompletes, by simpa using sameCalls,
      (gapReads.trans headReads).trans restReads⟩

theorem reads_batch {kinds : List TokenKind} {calls : List Call} (batchOf : BatchOf kinds calls)
    {tokens : List Token} (same : tokens.map Token.kind = kinds) :
    ∃ final queries, start.Reads tokens final ∧ final.Ends queries
      ∧ queries.map Query.call = calls := by
  cases batchOf with
  | queries before after first more =>
    obtain ⟨body, trailing, rfl, bodySame, trailingSame⟩ := List.map_eq_append_iff.mp same
    obtain ⟨body, rest, rfl, bodySame, restSame⟩ := List.map_eq_append_iff.mp bodySame
    obtain ⟨leading, head, rfl, leadingSame, headSame⟩ := List.map_eq_append_iff.mp bodySame
    have leadingReads := reads_semicolons [] leadingSame
    obtain ⟨stage, query, completes, rfl, headReads⟩ := reads_query [] first headSame
    obtain ⟨others, last, final, finalCompletes, sameCalls, restReads⟩ :=
      reads_moreQueries more completes restSame
    have reads := (leadingReads.trans headReads).trans restReads
    -- Without a semicolon at the end it is the end of input that ends the last query.
    cases after with
    | zero =>
      obtain rfl := List.map_eq_nil_iff.mp trailingSame
      rw [List.append_nil]
      exact ⟨⟨others, final⟩, others ++ [last], reads,
        .completes others finalCompletes, by simpa using sameCalls⟩
    | succ extra =>
      have ended := reads_moreSemicolons others finalCompletes trailingSame
      exact ⟨⟨others ++ [last], .between⟩, others ++ [last], reads.trans ended,
        .between _, by simpa using sameCalls⟩

end Reading

namespace Batch

theorem batchOf_of_ofTokens {tokens : List Token} {batch : Batch}
    (parsed : ofTokens tokens = .ok batch) : BatchOf (Token.kindsBeforeEnd tokens) batch.calls := by
  exact (placed_of_ofTokens parsed).1.batchOf

theorem ofTokens_of_batchOf {tokens : List Token} {calls : List Call}
    (batchOf : BatchOf (Token.kindsBeforeEnd tokens) calls) :
    ∃ batch, ofTokens tokens = .ok batch ∧ batch.calls = calls := by
  obtain ⟨final, queries, reads, ends, rfl⟩ := Reading.reads_batch batchOf rfl
  have nonempty : queries ≠ [] := by simpa using batchOf.ne_nil
  exact ⟨.spanning queries nonempty,
    (Reading.resume_eq_ok_iff _ _ _ _).mpr ⟨final, queries, nonempty, reads, ends, rfl⟩, rfl⟩

theorem not_malformed_of_ofTokens {tokens : List Token} {batch : Batch}
    (parsed : ofTokens tokens = .ok batch) :
    ∀ token ∈ Token.beforeEnd tokens, token.kind.isMalformed = false := by
  obtain ⟨_, _, _, reads, _, _⟩ := (Reading.resume_eq_ok_iff _ _ _ _).mp parsed
  exact reads.isMalformed_eq_false

theorem parse_eq (source : String) :
    parse source = ofTokens (Token.scanFrom .origin source.toList) := by
  rw [parse, Token.scan_eq_scanFrom]

theorem batchOf_of_parse {source : String} {batch : Batch} (parsed : parse source = .ok batch) :
    BatchOf (Token.kinds source.toList) batch.calls :=
  batchOf_of_ofTokens ((parse_eq source).symm.trans parsed)

theorem parse_of_batchOf {source : String} {calls : List Call}
    (batchOf : BatchOf (Token.kinds source.toList) calls) :
    ∃ batch, parse source = .ok batch ∧ batch.calls = calls := by
  rw [parse_eq]
  exact ofTokens_of_batchOf batchOf

theorem parse_iff_batchOf (source : String) (calls : List Call) :
    (∃ batch, parse source = .ok batch ∧ batch.calls = calls) ↔
      BatchOf (Token.kinds source.toList) calls := by
  refine ⟨?_, parse_of_batchOf⟩
  rintro ⟨batch, parsed, rfl⟩
  exact batchOf_of_parse parsed

theorem not_malformed_of_parse {source : String} {batch : Batch}
    (parsed : parse source = .ok batch) :
    ∀ kind ∈ Token.kinds source.toList, kind.isMalformed = false := by
  intro kind member
  obtain ⟨token, before, rfl⟩ := List.mem_map.mp member
  exact not_malformed_of_ofTokens ((parse_eq source).symm.trans parsed) token before

theorem parse_of_view {α : Type} (view : Batch → α) {source : String} {seen : α}
    (read : (ofTokens (Token.scanFrom .origin source.toList)).toOption.map view = some seen) :
    ∃ batch, parse source = .ok batch ∧ view batch = seen := by
  rw [parse_eq]
  cases parsed : ofTokens (Token.scanFrom .origin source.toList) with
  | ok batch =>
    rw [parsed] at read
    exact ⟨batch, rfl, Option.some.inj read⟩
  | error error =>
    rw [parsed] at read
    cases read

theorem parse_of_calls {source : String} {calls : List Call}
    (read : (ofTokens (Token.scanFrom .origin source.toList)).toOption.map Batch.calls =
      some calls) :
    ∃ batch, parse source = .ok batch ∧ batch.calls = calls := parse_of_view Batch.calls read

/-- Tokens are accepted exactly if the grammar derives their kinds, and the batch has the calls of
the derivation. -/
theorem ofTokens_recognizes (tokens : List Token) :
    (∀ calls, (∃ batch, ofTokens tokens = .ok batch ∧ batch.calls = calls) ↔
      BatchOf (Token.kindsBeforeEnd tokens) calls)
    ∧ (∀ batch, ofTokens tokens = .ok batch →
      ∀ query ∈ batch.queries, ∀ spec, query.fields = some spec → spec.names ≠ [])
    ∧ ((∃ token ∈ Token.beforeEnd tokens, token.kind.isMalformed = true) →
      ∀ batch, ofTokens tokens ≠ .ok batch) := by
  refine ⟨fun calls => ⟨?_, ofTokens_of_batchOf⟩, ?_, ?_⟩
  · rintro ⟨batch, parsed, rfl⟩
    exact batchOf_of_ofTokens parsed
  · intro batch parsed query member spec listed empty
    have wellFormed := (batchOf_of_ofTokens parsed).wellFormed (fun _ _ => trivial)
      query.call (List.mem_map_of_mem member)
    exact wellFormed.nonempty (by simp [Query.call, listed, empty])
  · rintro ⟨token, member, malformed⟩ batch parsed
    rw [not_malformed_of_ofTokens parsed token member] at malformed
    cases malformed

theorem ofTokens_recognizes_loose_separators :
    let place := fun kind => (⟨kind, .emptyAt .origin⟩ : Token)
    let tokens := [.semicolon, .identifier "get", .openParen, .identifier "id", .equals,
      .literal "a b", .comma, .identifier "x", .closeParen, .openBrace, .comma, .identifier "f",
      .identifier "f", .comma, .comma, .closeBrace, .semicolon].map place
    let calls : List Call :=
      [⟨"get", [⟨some "id", .literal "a b"⟩, ⟨none, .word "x"⟩], some ["f", "f"]⟩]
    (∃ batch, ofTokens tokens = .ok batch ∧ batch.calls = calls
        ∧ ∀ query ∈ batch.queries, ∀ spec, query.fields = some spec → spec.names ≠ [])
      ∧ BatchOf (Token.kindsBeforeEnd tokens) calls
      ∧ ∀ batch, ofTokens (tokens ++ [place (.malformed "unexpected character" "?")]) ≠
        .ok batch := by
  intro place tokens calls
  have accepted : ∃ batch, ofTokens tokens = .ok batch ∧ batch.calls = calls := ⟨_, rfl, rfl⟩
  obtain ⟨derives, nonempty, _⟩ := ofTokens_recognizes tokens
  obtain ⟨_, _, refused⟩ :=
    ofTokens_recognizes (tokens ++ [place (.malformed "unexpected character" "?")])
  have derived := (derives calls).mp accepted
  obtain ⟨batch, parsed, same⟩ := accepted
  refine ⟨⟨batch, parsed, same, nonempty batch parsed⟩, derived, refused ?_⟩
  exact ⟨place (.malformed "unexpected character" "?"), by decide, rfl⟩

end Batch

end Inquiry
