import Inquiry.Proofs.Query.Derivation
import Inquiry.Proofs.Token.Tiling

set_option autoImplicit false

namespace Inquiry

namespace Span.Covers

theorem single (kind : TokenKind) (span : Span) : span.Covers [⟨kind, span⟩] :=
  ⟨_, _, rfl, rfl, rfl⟩

theorem through {first last : Span} {tokens more : List Token} (covers : first.Covers tokens)
    (between : List Token) (lastCovers : last.Covers more) :
    (first.through last).Covers (tokens ++ between ++ more) := by
  obtain ⟨head, _, headFirst, _, rfl⟩ := covers
  obtain ⟨_, final, _, finalLast, rfl⟩ := lastCovers
  exact ⟨head, final, by simp [headFirst], by simp [finalLast], rfl⟩

theorem ne_nil {span : Span} {tokens : List Token} (covers : span.Covers tokens) : tokens ≠ [] := by
  obtain ⟨_, _, head, _, _⟩ := covers
  rintro rfl
  cases head

theorem within {span : Span} {tokens : List Token} (covers : span.Covers tokens)
    (forward : ∀ token ∈ tokens, token.span.start.offset ≤ token.span.stop.offset)
    (ordered : tokens.Pairwise fun first second => first.span.Precedes second.span)
    {token : Token} (member : token ∈ tokens) : token.span.Within span := by
  obtain ⟨first, last, head, located, rfl⟩ := covers
  constructor
  next =>
    obtain ⟨rest, rfl⟩ := List.head?_eq_some_iff.mp head
    rcases List.mem_cons.mp member with rfl | later
    · exact Nat.le_refl _
    · have precedes := (List.pairwise_cons.mp ordered).1 token later
      exact (forward first (by simp)).trans precedes
  next =>
    obtain ⟨before, rfl⟩ := List.getLast?_eq_some_iff.mp located
    rcases List.mem_append.mp member with earlier | here
    · have precedes := (List.pairwise_append.mp ordered).2.2 token earlier last (by simp)
      exact Nat.le_trans precedes (forward last (by simp))
    · rw [List.mem_singleton.mp here]
      exact Nat.le_refl _

end Span.Covers

inductive Segments : List Token → List Span → Prop where
  | nil : Segments [] []
  | skip (token : Token) {tokens : List Token} {spans : List Span} (more : Segments tokens spans) :
    Segments (token :: tokens) spans
  | cover {run tokens : List Token} {span : Span} {spans : List Span} (covers : span.Covers run)
    (more : Segments tokens spans) : Segments (run ++ tokens) (span :: spans)

namespace Segments

theorem skips (tokens : List Token) : Segments tokens [] := by
  induction tokens with
  | nil => exact .nil
  | cons token _ ih => exact .skip token ih

theorem one {run : List Token} {span : Span} (covers : span.Covers run) : Segments run [span] := by
  simpa using Segments.cover covers .nil

theorem append {tokens more : List Token} {spans others : List Span}
    (segments : Segments tokens spans) (later : Segments more others) :
    Segments (tokens ++ more) (spans ++ others) := by
  induction segments with
  | nil => exact later
  | skip token _ ih => exact .skip token ih
  | cover covers _ ih => simpa using Segments.cover covers ih

theorem exists_covers {tokens : List Token} {spans : List Span} (segments : Segments tokens spans) :
    ∀ span ∈ spans, ∃ run, run <:+: tokens ∧ span.Covers run := by
  induction segments with
  | nil => simp
  | skip token _ ih =>
    intro span member
    obtain ⟨run, inside, covers⟩ := ih span member
    exact ⟨run, inside.trans (List.suffix_cons token _).isInfix, covers⟩
  | cover covers _ ih =>
    rw [List.forall_mem_cons]
    refine ⟨⟨_, (List.prefix_append _ _).isInfix, covers⟩, ?_⟩
    intro span member
    obtain ⟨run, inside, covers⟩ := ih span member
    exact ⟨run, inside.trans (List.suffix_append _ _).isInfix, covers⟩

theorem ordered {tokens : List Token} {spans : List Span} (segments : Segments tokens spans)
    (inOrder : tokens.Pairwise fun first second => first.span.Precedes second.span) :
    spans.Pairwise Span.Precedes := by
  induction segments with
  | nil => exact .nil
  | skip _ _ ih => exact ih (List.pairwise_cons.mp inOrder).2
  | cover covers more ih =>
    obtain ⟨_, later, across⟩ := List.pairwise_append.mp inOrder
    refine List.pairwise_cons.mpr ⟨fun span member => ?_, ih later⟩
    obtain ⟨_, last, _, located, rfl⟩ := covers
    obtain ⟨run, inside, first, _, head, _, rfl⟩ := more.exists_covers span member
    exact across last (List.mem_of_getLast? located) first
      (inside.subset (List.mem_of_head? head))

end Segments

namespace Query

def parts (query : Query) : List Span :=
  query.operation.span :: query.params.map Param.span
    ++ (query.fields.map FieldSpec.span).toList

def names (query : Query) : List Name :=
  query.operation :: query.params.filterMap Param.key
    ++ (query.fields.map FieldSpec.names).getD []

def spans (query : Query) : List Span :=
  query.span :: query.parts ++ query.names.map Name.span

end Query

namespace Placed

theorem ParamOf.covers {tokens : List Token} {param : Param} (paramOf : ParamOf tokens param) :
    param.span.Covers tokens := by
  cases paramOf with
  | positional _ span => exact .single _ span
  | keyed key equals _ span =>
    exact (Span.Covers.single _ key.span).through [⟨.equals, equals⟩] (.single _ span)

theorem ParamsOf.segments {tokens : List Token} {params : List Param}
    (paramsOf : ParamsOf tokens params) : Segments tokens (params.map Param.span) := by
  induction paramsOf with
  | one paramOf => exact .one paramOf.covers
  | snoc _ comma last ih => simpa using ih.append (.skip ⟨.comma, comma⟩ (.one last.covers))

theorem ParamsOf.exists_paramOf {tokens : List Token} {params : List Param}
    (paramsOf : ParamsOf tokens params) :
    ∀ param ∈ params, ∃ run, run <:+: tokens ∧ ParamOf run param := by
  induction paramsOf with
  | one paramOf =>
    rw [List.forall_mem_singleton]
    exact ⟨_, List.infix_rfl, paramOf⟩
  | snoc before comma last ih =>
    rw [List.forall_mem_append, List.forall_mem_singleton]
    refine ⟨fun param member => ?_, ⟨_, ?_, last⟩⟩
    · obtain ⟨run, inside, paramOf⟩ := ih param member
      exact ⟨run, inside.trans (List.prefix_append _ _).isInfix, paramOf⟩
    · exact ((List.suffix_cons _ _).trans (List.suffix_append _ _)).isInfix

theorem NamesOf.mem_of_mem {tokens : List Token} {names : List Name}
    (namesOf : NamesOf tokens names) :
    ∀ name ∈ names, ⟨.identifier name.text, name.span⟩ ∈ tokens := by
  induction namesOf with
  | nil => simp
  | comma _ _ ih => exact fun name member => List.mem_append_left _ (ih name member)
  | name _ last ih =>
    rw [List.forall_mem_append, List.forall_mem_singleton]
    exact ⟨fun name member => List.mem_append_left _ (ih name member), by simp⟩

theorem CallOf.covers {tokens : List Token} {query : Query} (callOf : CallOf tokens query) :
    query.span.Covers tokens := by
  cases callOf with
  | empty operation paren closing =>
    exact (Span.Covers.single _ operation.span).through [⟨.openParen, paren⟩] (.single _ closing)
  | @params operation paren closing tokens =>
    exact (Span.Covers.single _ operation.span).through (⟨.openParen, paren⟩ :: tokens)
      (.single _ closing)

theorem CallOf.segments {tokens : List Token} {query : Query} (callOf : CallOf tokens query) :
    Segments tokens (query.operation.span :: query.params.map Param.span) := by
  cases callOf with
  | empty operation => exact .cover (.single _ operation.span) (.skips _)
  | params operation paren closing paramsOf =>
    have inner := paramsOf.segments.append (.skips [⟨.closeParen, closing⟩])
    have whole := Segments.cover (.single (.identifier operation.text) operation.span)
      (.skip ⟨.openParen, paren⟩ inner)
    simpa using whole

theorem CallOf.exists_paramOf {tokens : List Token} {query : Query} (callOf : CallOf tokens query) :
    ∀ param ∈ query.params, ∃ run, run <:+: tokens ∧ ParamOf run param := by
  cases callOf with
  | empty => simp
  | @params operation paren closing tokens _ paramsOf =>
    intro param member
    obtain ⟨run, inside, paramOf⟩ := paramsOf.exists_paramOf param member
    have within : tokens <:+: ⟨.identifier operation.text, operation.span⟩ ::
        ⟨.openParen, paren⟩ :: tokens ++ [⟨.closeParen, closing⟩] := ⟨[_, _], [_], rfl⟩
    exact ⟨run, inside.trans within, paramOf⟩

theorem CallOf.operation_mem {tokens : List Token} {query : Query} (callOf : CallOf tokens query) :
    ⟨.identifier query.operation.text, query.operation.span⟩ ∈ tokens := by
  cases callOf <;> simp

theorem QueryOf.covers {tokens : List Token} {query : Query} (queryOf : QueryOf tokens query) :
    query.span.Covers tokens := by
  cases queryOf with
  | bare callOf => exact callOf.covers
  | @selecting _ listed _ _ callOf brace _ _ closing =>
    exact callOf.covers.through (⟨.openBrace, brace⟩ :: listed) (.single _ closing)

theorem QueryOf.segments {tokens : List Token} {query : Query} (queryOf : QueryOf tokens query) :
    Segments tokens query.parts := by
  cases queryOf with
  | bare callOf => simpa [Query.parts, callOf.fields_eq_none] using callOf.segments
  | @selecting _ listed query _ callOf brace _ _ closing =>
    have fields : (brace.through closing).Covers
        ([⟨.openBrace, brace⟩] ++ listed ++ [⟨.closeBrace, closing⟩]) :=
      (Span.Covers.single _ brace).through listed (.single _ closing)
    simpa [Query.parts, Query.select] using callOf.segments.append (.one fields)

theorem QueryOf.exists_callOf {tokens : List Token} {query : Query}
    (queryOf : QueryOf tokens query) :
    ∃ closed bare, closed <:+: tokens ∧ CallOf closed bare ∧ query.operation = bare.operation
      ∧ query.params = bare.params := by
  cases queryOf with
  | bare callOf => exact ⟨_, _, List.infix_rfl, callOf, rfl, rfl⟩
  | selecting callOf =>
    exact ⟨_, _, ((List.prefix_append _ _).trans (List.prefix_append _ _)).isInfix, callOf, rfl, rfl⟩

theorem QueryOf.exists_paramOf {tokens : List Token} {query : Query}
    (queryOf : QueryOf tokens query) :
    ∀ param ∈ query.params, ∃ run, run <:+: tokens ∧ ParamOf run param := by
  obtain ⟨closed, bare, inside, callOf, _, sameParams⟩ := queryOf.exists_callOf
  rw [sameParams]
  intro param member
  obtain ⟨run, inner, paramOf⟩ := callOf.exists_paramOf param member
  exact ⟨run, inner.trans inside, paramOf⟩

theorem QueryOf.exists_fields {tokens : List Token} {query : Query}
    (queryOf : QueryOf tokens query) {spec : FieldSpec} (listed : query.fields = some spec) :
    ∃ brace inner closing, ⟨.openBrace, brace⟩ :: inner ++ [⟨.closeBrace, closing⟩] <:+: tokens
      ∧ spec.span = brace.through closing ∧ NamesOf inner spec.names := by
  cases queryOf with
  | bare callOf => simp [callOf.fields_eq_none] at listed
  | @selecting _ inner _ _ callOf brace namesOf _ closing =>
    cases listed
    refine ⟨brace, inner, closing, ?_, rfl, namesOf⟩
    rw [List.append_assoc]
    exact (List.suffix_append _ _).isInfix

theorem QueryOf.names_mem {tokens : List Token} {query : Query} (queryOf : QueryOf tokens query) :
    ∀ name ∈ query.names, ⟨.identifier name.text, name.span⟩ ∈ tokens := by
  intro name member
  rcases List.mem_append.mp member with inCall | inFields
  · rcases List.mem_cons.mp inCall with rfl | isKey
    · obtain ⟨closed, bare, inside, callOf, sameOperation, _⟩ := queryOf.exists_callOf
      rw [sameOperation]
      exact inside.subset callOf.operation_mem
    · obtain ⟨param, isParam, keyed⟩ := List.mem_filterMap.mp isKey
      obtain ⟨run, inside, paramOf⟩ := queryOf.exists_paramOf param isParam
      apply inside.subset
      cases paramOf with
      | positional => cases keyed
      | keyed key =>
        cases keyed
        simp
  · cases listed : query.fields with
    | none => simp [listed] at inFields
    | some spec =>
      obtain ⟨brace, inner, closing, inside, _, namesOf⟩ := queryOf.exists_fields listed
      rw [listed] at inFields
      exact inside.subset (by simp [namesOf.mem_of_mem name inFields])

theorem QueriesOf.segments {tokens : List Token} {queries : List Query}
    (queriesOf : QueriesOf tokens queries) : Segments tokens (queries.map Query.span) := by
  induction queriesOf with
  | one queryOf => exact .one queryOf.covers
  | snoc _ _ _ last ih =>
    simpa using (ih.append (.skips _)).append (.one last.covers)

theorem QueriesOf.ne_nil {tokens : List Token} {queries : List Query}
    (queriesOf : QueriesOf tokens queries) : queries ≠ [] := by
  cases queriesOf <;> simp

theorem QueriesOf.covers {tokens : List Token} {queries : List Query}
    (queriesOf : QueriesOf tokens queries) (nonempty : queries ≠ []) :
    (Batch.spanning queries nonempty).span.Covers tokens := by
  induction queriesOf with
  | one queryOf => exact queryOf.covers
  | @snoc _ _ gap queries query before _ _ last ih =>
    have whole := (ih before.ne_nil).through gap last.covers
    simpa [Batch.spanning, Span.through, List.head_append_of_ne_nil before.ne_nil] using whole

theorem QueriesOf.exists_queryOf {tokens : List Token} {queries : List Query}
    (queriesOf : QueriesOf tokens queries) :
    ∀ query ∈ queries, ∃ run, run <:+: tokens ∧ QueryOf run query := by
  induction queriesOf with
  | one queryOf =>
    rw [List.forall_mem_singleton]
    exact ⟨_, List.infix_rfl, queryOf⟩
  | snoc _ _ _ last ih =>
    rw [List.forall_mem_append, List.forall_mem_singleton]
    refine ⟨fun query member => ?_, ⟨_, (List.suffix_append _ _).isInfix, last⟩⟩
    obtain ⟨run, inside, queryOf⟩ := ih query member
    exact ⟨run, inside.trans ((List.prefix_append _ _).trans (List.prefix_append _ _)).isInfix,
      queryOf⟩

theorem QueriesOf.batchOf {tokens : List Token} {queries : List Query}
    (queriesOf : QueriesOf tokens queries) :
    Grammar.BatchOf (tokens.map Token.kind) (queries.map Query.call) := by
  have noSemicolons : Semicolons [] := by simp [Semicolons]
  exact BatchOf.batchOf ⟨[], tokens, [], by simp, noSemicolons, queriesOf, noSemicolons⟩

end Placed

end Inquiry
