import Inquiry.Proofs.Query.Recognition
import Inquiry.Proofs.Query.Segments

set_option autoImplicit false

namespace Inquiry

variable {source : String}

theorem Span.Covers.exactIn {run : List Token} {span : Span} (covers : span.Covers run)
    (wellFormed : ∀ token ∈ Token.beforeEnd (Token.scan source), token.kind.isMalformed = false)
    (inside : run <:+: Token.beforeEnd (Token.scan source)) : span.ExactIn source := by
  obtain ⟨text, encloses, scanned⟩ := Token.exists_text_of_covers wellFormed inside covers
  apply encloses.exactIn
  rintro rfl
  exact covers.ne_nil (by simpa using scanned.symm)

theorem Span.Covers.reread {run : List Token} {span : Span} {calls : List Call}
    (covers : span.Covers run)
    (wellFormed : ∀ token ∈ Token.beforeEnd (Token.scan source), token.kind.isMalformed = false)
    (inside : run <:+: Token.beforeEnd (Token.scan source))
    (batchOf : Grammar.BatchOf (run.map Token.kind) calls) :
    ∃ text again, span.textIn source = some text ∧ Batch.parse (String.ofList text) = .ok again
      ∧ again.calls = calls := by
  obtain ⟨text, encloses, scanned⟩ := Token.exists_text_of_covers wellFormed inside covers
  have kinds : Token.kinds (String.ofList text).toList = run.map Token.kind := by
    rw [String.toList_ofList, ← Token.kindsBeforeEnd_scanFrom span.start, Token.kindsBeforeEnd,
      scanned]
  obtain ⟨again, parsed, same⟩ := Batch.parse_of_batchOf (kinds ▸ batchOf)
  exact ⟨text, again, encloses.textIn_eq, parsed, same⟩

structure Query.SpansExact (query : Query) (source : String) : Prop where
  spans : ∀ span ∈ query.spans, span.ExactIn source
  ordered : query.parts.Pairwise Span.Precedes
  within : ∀ part ∈ query.parts, part.Within query.span
  names : ∀ name ∈ query.names, name.span.textIn source = some name.text.toList
  keyed : ∀ param ∈ query.params, ∀ key, param.key = some key →
    ∃ token ∈ Token.scan source, Grammar.ValueOf token.kind param.value
      ∧ param.span = key.span.through token.span
      ∧ ∃ between text, token.span.textIn source = some text
        ∧ param.span.textIn source = some (key.text.toList ++ between ++ text)
  fields : ∀ spec, query.fields = some spec →
    ∃ inner, spec.span.textIn source = some ('{' :: inner ++ ['}'])
  reread : ∃ text again, query.span.textIn source = some text
    ∧ Batch.parse (String.ofList text) = .ok again ∧ again.calls = [query.call]

structure Batch.SpansExact (batch : Batch) (source : String) : Prop where
  queries : ∀ query ∈ batch.queries, query.SpansExact source
  ordered : (batch.queries.map Query.span).Pairwise Span.Precedes
  span : batch.span.ExactIn source
  ends : ∃ first last, batch.queries.head? = some first ∧ batch.queries.getLast? = some last
    ∧ batch.span = ⟨first.span.start, last.span.stop⟩
  reread : ∃ text again, batch.span.textIn source = some text
    ∧ parse (String.ofList text) = .ok again ∧ again.calls = batch.calls

namespace Placed

theorem ParamOf.keyed_text {run : List Token} {param : Param} {key : Name}
    (paramOf : ParamOf run param) (inside : run <:+: Token.beforeEnd (Token.scan source))
    (keyed : param.key = some key) :
    ∃ token ∈ Token.scan source, Grammar.ValueOf token.kind param.value
      ∧ param.span = key.span.through token.span
      ∧ ∃ between text, token.span.textIn source = some text
        ∧ param.span.textIn source = some (key.text.toList ++ between ++ text) := by
  cases paramOf with
  | positional => cases keyed
  | @keyed _ equals kind _ valueOf span =>
    cases keyed
    have member : (⟨kind, span⟩ : Token) ∈ Token.beforeEnd (Token.scan source) :=
      inside.subset (by simp)
    have keyWritten := Token.encloses_of_mem (inside.subset List.mem_cons_self) (by simp)
    obtain ⟨text, _, valueWritten, _⟩ := Token.exists_text_of_mem member
    have split : ⟨.identifier key.text, key.span⟩ :: [⟨.equals, equals⟩] ++ [⟨kind, span⟩] <:+:
        Token.beforeEnd (Token.scan source) := inside
    obtain ⟨between, whole⟩ := keyWritten.through valueWritten (Token.precedes_of_infix split)
    exact ⟨⟨kind, span⟩, (List.takeWhile_prefix _).subset member, valueOf, rfl, between, text,
      valueWritten.textIn_eq, whole.textIn_eq⟩

theorem QueryOf.fields_text {run : List Token} {query : Query} {spec : FieldSpec}
    (queryOf : QueryOf run query) (inside : run <:+: Token.beforeEnd (Token.scan source))
    (listed : query.fields = some spec) :
    ∃ inner, spec.span.textIn source = some ('{' :: inner ++ ['}']) := by
  obtain ⟨brace, inner, closing, insideRun, same, _⟩ := queryOf.exists_fields listed
  have braces := insideRun.trans inside
  have opens := Token.encloses_of_mem (braces.subset List.mem_cons_self) (by simp)
  have closes := Token.encloses_of_mem
    (braces.subset (List.mem_append_right _ List.mem_cons_self)) (by simp)
  obtain ⟨between, whole⟩ := opens.through closes (Token.precedes_of_infix braces)
  rw [same]
  exact ⟨between, by simpa [TokenKind.sourceText] using whole.textIn_eq⟩

theorem QueryOf.parts_within {run : List Token} {query : Query} (queryOf : QueryOf run query)
    (inside : run <:+: Token.beforeEnd (Token.scan source)) :
    ∀ part ∈ query.parts, part.Within query.span := by
  intro part isPart
  have tokenWithin {token : Token} (member : token ∈ run) : token.span.Within query.span :=
    queryOf.covers.within (fun token member => (Token.offset_lt_of_mem (inside.subset member)).le)
      (Token.pairwise_of_infix inside) member
  obtain ⟨inner, insideRun, first, last, head, final, rfl⟩ :=
    queryOf.segments.exists_covers part isPart
  have firstWithin := tokenWithin (insideRun.subset (List.mem_of_head? head))
  have lastWithin := tokenWithin (insideRun.subset (List.mem_of_getLast? final))
  exact ⟨firstWithin.1, lastWithin.2⟩

theorem QueryOf.spans_exactIn {run : List Token} {query : Query} (queryOf : QueryOf run query)
    (wellFormed : ∀ token ∈ Token.beforeEnd (Token.scan source), token.kind.isMalformed = false)
    (inside : run <:+: Token.beforeEnd (Token.scan source)) :
    ∀ span ∈ query.spans, span.ExactIn source := by
  intro span member
  rcases List.mem_append.mp member with isPart | isName
  · rcases List.mem_cons.mp isPart with rfl | isPart
    · exact queryOf.covers.exactIn wellFormed inside
    · obtain ⟨part, inner, covers⟩ := queryOf.segments.exists_covers span isPart
      exact covers.exactIn wellFormed (inner.trans inside)
  · obtain ⟨name, isOne, rfl⟩ := List.mem_map.mp isName
    obtain ⟨text, nonempty, encloses, _⟩ :=
      Token.exists_text_of_mem (inside.subset (queryOf.names_mem name isOne))
    exact encloses.exactIn nonempty

theorem QueryOf.spansExact {run : List Token} {query : Query} (queryOf : QueryOf run query)
    (wellFormed : ∀ token ∈ Token.beforeEnd (Token.scan source), token.kind.isMalformed = false)
    (inside : run <:+: Token.beforeEnd (Token.scan source)) : query.SpansExact source := by
  constructor
  case spans => exact queryOf.spans_exactIn wellFormed inside
  case ordered => exact queryOf.segments.ordered (Token.pairwise_of_infix inside)
  case within => exact queryOf.parts_within inside
  case names =>
    intro name isName
    have member := inside.subset (queryOf.names_mem name isName)
    exact (Token.encloses_of_mem member (by simp)).textIn_eq
  case keyed =>
    intro param isParam key keyed
    obtain ⟨inner, insideRun, paramOf⟩ := queryOf.exists_paramOf param isParam
    exact paramOf.keyed_text (insideRun.trans inside) keyed
  case fields => exact fun spec listed => queryOf.fields_text inside listed
  case reread =>
    have one := (QueriesOf.one queryOf).batchOf
    exact queryOf.covers.reread wellFormed inside one

end Placed

namespace Batch

/-- The spans of whatever is read are exact, and each query reads again from the text of its own
span. -/
theorem parse_spansExact {source : String} {batch : Batch} (parsed : parse source = .ok batch) :
    batch.SpansExact source := by
  have wellFormed := not_malformed_of_ofTokens parsed
  obtain ⟨⟨leading, inner, trailing, tokens, _, queriesOf, _⟩, nonempty, whole⟩ :=
    placed_of_ofTokens parsed
  have inside : inner <:+: Token.beforeEnd (Token.scan source) := ⟨leading, trailing, tokens.symm⟩
  have covers : batch.span.Covers inner := by
    rw [whole]
    exact queriesOf.covers nonempty
  constructor
  case queries =>
    intro query member
    obtain ⟨run, insideRun, queryOf⟩ := queriesOf.exists_queryOf query member
    exact queryOf.spansExact wellFormed (insideRun.trans inside)
  case ordered => exact queriesOf.segments.ordered (Token.pairwise_of_infix inside)
  case span => exact covers.exactIn wellFormed inside
  case ends =>
    exact ⟨_, _, List.head?_eq_some_head nonempty, List.getLast?_eq_some_getLast nonempty,
      congrArg Batch.span whole⟩
  case reread => exact covers.reread wellFormed inside queriesOf.batchOf

theorem parse_spansExact_lines :
    let source := ";get ( id = \"é\\\"\",\n x ){ ,a b };; y();"
    ∃ batch, parse source = .ok batch
      ∧ batch.queries.map Query.parts =
        [[⟨⟨0, 1, 1⟩, ⟨0, 4, 4⟩⟩, ⟨⟨0, 7, 7⟩, ⟨0, 17, 18⟩⟩, ⟨⟨1, 1, 21⟩, ⟨1, 2, 22⟩⟩,
            ⟨⟨1, 4, 24⟩, ⟨1, 12, 32⟩⟩], [⟨⟨1, 15, 35⟩, ⟨1, 16, 36⟩⟩]]
      ∧ batch.SpansExact source := by
  intro source
  obtain ⟨batch, parsed, parts⟩ : ∃ batch, parse source = .ok batch
      ∧ batch.queries.map Query.parts =
        [[⟨⟨0, 1, 1⟩, ⟨0, 4, 4⟩⟩, ⟨⟨0, 7, 7⟩, ⟨0, 17, 18⟩⟩, ⟨⟨1, 1, 21⟩, ⟨1, 2, 22⟩⟩,
            ⟨⟨1, 4, 24⟩, ⟨1, 12, 32⟩⟩], [⟨⟨1, 15, 35⟩, ⟨1, 16, 36⟩⟩]] :=
    parse_of_view (fun batch => batch.queries.map Query.parts) (by decide +kernel)
  exact ⟨batch, parsed, parts, parse_spansExact parsed⟩

end Batch

end Inquiry
