import Inquiry.Proofs.Source.Span
import Inquiry.Proofs.Token.Characters

set_option autoImplicit false

namespace Inquiry

namespace Token

theorem text_lexeme {char : Char} {rest : List Char}
    (bare : ∀ value, (lexeme char rest).kind ≠ .literal value) :
    (lexeme char rest).text = (lexeme char rest).kind.sourceText.toList := by
  rcases lexeme_cases char with ⟨kind, sourceText, _, same⟩ | ⟨_, same⟩ | ⟨_, same⟩
  · rw [same, sourceText]
    simp
  · rw [same] at bare ⊢
    unfold literalLexeme at bare ⊢
    split
    next split => simp [split] at bare
    next => simp [TokenKind.sourceText]
  · rw [same]
    simp [identifierLexeme, TokenKind.sourceText]

theorem separates_dropWhile (text : List Char) :
    Separates (text.dropWhile continuesIdentifier) := by
  intro char member
  have := List.head?_dropWhile_not continuesIdentifier text
  rw [Option.mem_def.mp member] at this
  simpa using this

theorem Separates.of_append {before after : List Char} (separates : Separates (before ++ after)) :
    Separates before := by
  cases before with
  | nil => exact separates_nil
  | cons char rest => exact separates_cons.mpr (separates_cons.mp separates)

theorem literalLexeme_cut {tail before after : List Char} {kind : TokenKind}
    (wellFormed : kind.isMalformed = false)
    (found : literalLexeme (tail ++ (before ++ after)) = ⟨kind, '"' :: tail, before ++ after⟩) :
    literalLexeme (tail ++ before) = ⟨kind, '"' :: tail, before⟩ := by
  rw [literalLexeme] at found
  split at found
  next body rest split =>
    injection found with sameKind sameText sameRest
    obtain rfl : body ++ ['"'] = tail := (List.cons.inj sameText).2
    have cut := splitLiteral_body split before
    rw [literalLexeme, List.append_assoc, List.singleton_append, cut, ← sameKind]
    rfl
  next =>
    injection found with sameKind
    rw [← sameKind] at wellFormed
    cases wellFormed

theorem identifierLexeme_cut {char : Char} {tail before after : List Char} {kind : TokenKind}
    (found : identifierLexeme char (tail ++ (before ++ after)) =
      ⟨kind, char :: tail, before ++ after⟩) :
    identifierLexeme char (tail ++ before) = ⟨kind, char :: tail, before⟩ := by
  rw [identifierLexeme] at found
  injection found with sameKind sameText sameRest
  have taken := (List.cons.inj sameText).2
  have separates : Separates (before ++ after) := by
    rw [← sameRest]
    exact separates_dropWhile _
  have whole : tail.takeWhile continuesIdentifier = tail := by
    rw [← taken, List.takeWhile_takeWhile]
    simp
  have dropped : tail.dropWhile continuesIdentifier = [] := by
    rw [List.dropWhile_eq_nil_iff]
    exact List.takeWhile_eq_self_iff.mp whole
  rw [identifierLexeme, takeWhile_append_of_separates _ separates.of_append,
    dropWhile_append_of_separates _ separates.of_append, whole, dropped, ← sameKind, taken]
  rfl

theorem lexeme_cut {char : Char} {tail before after : List Char} {kind : TokenKind}
    (wellFormed : kind.isMalformed = false)
    (found : lexeme char (tail ++ (before ++ after)) = ⟨kind, char :: tail, before ++ after⟩) :
    lexeme char (tail ++ before) = ⟨kind, char :: tail, before⟩ := by
  rcases lexeme_cases char with ⟨sign, _, _, same⟩ | ⟨rfl, same⟩ | ⟨_, same⟩
  · rw [same] at found
    injection found with sameKind sameText
    obtain rfl : [] = tail := (List.cons.inj sameText).2
    rw [same, sameKind, List.nil_append]
  · rw [same] at found ⊢
    exact literalLexeme_cut wellFormed found
  · rw [same] at found ⊢
    exact identifierLexeme_cut found

def endOf (position : Position) (tokens : List Token) : Position :=
  tokens.foldl (fun _ token => token.span.stop) position

theorem beforeEnd_scanFrom_append_eq {position : Position} {source : List Char}
    {front back : List Token} (wellFormed : ∀ token ∈ front, token.kind.isMalformed = false)
    (tokens : beforeEnd (scanFrom position source) = front ++ back) :
    ∃ before after, source = before ++ after ∧ position.after before = endOf position front
      ∧ beforeEnd (scanFrom position before) = front
      ∧ beforeEnd (scanFrom (position.after before) after) = back := by
  -- Without tokens in front the cut is at the very beginning, before any blanks.
  cases front with
  | nil => exact ⟨[], source, rfl, rfl, by simp, tokens⟩
  | cons token more =>
    induction source using source_induction generalizing position token more with
    | nil => simp at tokens
    | blank char rest blank ih =>
      rw [scanFrom_blank _ _ blank] at tokens
      obtain ⟨before, after, rfl, stop, cut, later⟩ := ih token more wellFormed tokens
      exact ⟨char :: before, after, rfl, stop, by rw [scanFrom_blank _ _ blank, cut], later⟩
    | lexeme char rest solid ih =>
      have whole := lexeme_text_append_rest char rest
      rw [beforeEnd_scanFrom_lexeme _ _ solid] at tokens
      cases found : lexeme char rest with
      | mk kind text remaining =>
      rw [found] at whole tokens ih
      injection tokens with sameToken laterTokens
      obtain ⟨wellFormedHead, wellFormedMore⟩ := List.forall_mem_cons.mp wellFormed
      -- The rest is cut by the induction, or right here if this is the last token in front.
      have rest_cut : ∃ before after, remaining = before ++ after
          ∧ (position.after text).after before = endOf (position.after text) more
          ∧ beforeEnd (scanFrom (position.after text) before) = more
          ∧ beforeEnd (scanFrom ((position.after text).after before) after) = back := by
        cases more with
        | nil => exact ⟨[], remaining, rfl, rfl, by simp, laterTokens⟩
        | cons next others => exact ih next others wellFormedMore laterTokens
      obtain ⟨before, after, rfl, stop, cut, later⟩ := rest_cut
      cases text with
      | nil => exact absurd (by rw [found]) (lexeme_text_ne_nil char rest)
      | cons head tail =>
      obtain ⟨rfl, rfl⟩ := List.cons.inj whole
      have alone := lexeme_cut (by rw [← sameToken] at wellFormedHead; exact wellFormedHead) found
      refine ⟨head :: tail ++ before, after, by simp, ?_, ?_, ?_⟩
      · rw [Position.after_append, stop, ← sameToken]
        rfl
      · rw [List.cons_append, beforeEnd_scanFrom_lexeme _ _ solid, alone, cut, sameToken]
      · rw [Position.after_append, later]

theorem beforeEnd_scanFrom_eq_cons {position : Position} {source : List Char} {token : Token}
    {rest : List Token} (tokens : beforeEnd (scanFrom position source) = token :: rest) :
    ∃ before after, source = before ++ after ∧ position.after before = token.span.start
      ∧ beforeEnd (scanFrom token.span.start after) = token :: rest := by
  induction source using source_induction generalizing position with
  | nil => simp at tokens
  | blank char source blank ih =>
    rw [scanFrom_blank _ _ blank] at tokens
    obtain ⟨before, after, rfl, start, same⟩ := ih tokens
    exact ⟨char :: before, after, rfl, start, same⟩
  | lexeme char source solid _ =>
    have scanned := tokens
    rw [beforeEnd_scanFrom_lexeme _ _ solid] at tokens
    obtain ⟨rfl, _⟩ := List.cons.inj tokens
    exact ⟨[], char :: source, rfl, rfl, scanned⟩

end Token

def Span.Covers (span : Span) (tokens : List Token) : Prop :=
  ∃ first last, tokens.head? = some first ∧ tokens.getLast? = some last
    ∧ span = first.span.through last.span

namespace Token

theorem endOf_eq_of_getLast? {tokens : List Token} {last : Token}
    (located : tokens.getLast? = some last) (position : Position) :
    endOf position tokens = last.span.stop := by
  obtain ⟨before, rfl⟩ := List.getLast?_eq_some_iff.mp located
  simp [endOf]

theorem exists_text_of_covers {source : String} {run : List Token} {span : Span}
    (wellFormed : ∀ token ∈ beforeEnd (scan source), token.kind.isMalformed = false)
    (inside : run <:+: beforeEnd (scan source)) (covers : span.Covers run) :
    ∃ text, span.Encloses source text ∧ beforeEnd (scanFrom span.start text) = run := by
  obtain ⟨first, last, head, located, rfl⟩ := covers
  rw [scan_eq_scanFrom] at wellFormed inside
  obtain ⟨front, back, tokens⟩ := inside
  have wellFormedFront : ∀ token ∈ front, token.kind.isMalformed = false := fun token member =>
    wellFormed token (by simp [← tokens, member])
  have wellFormedRun : ∀ token ∈ run, token.kind.isMalformed = false := fun token member =>
    wellFormed token (by simp [← tokens, member])
  rw [List.append_assoc, eq_comm] at tokens
  obtain ⟨before, after, split, _, _, later⟩ := beforeEnd_scanFrom_append_eq wellFormedFront tokens
  obtain ⟨rest, rfl⟩ := List.head?_eq_some_iff.mp head
  obtain ⟨gap, more, rfl, start, here⟩ := beforeEnd_scanFrom_eq_cons later
  obtain ⟨text, others, rfl, stop, cut, _⟩ := beforeEnd_scanFrom_append_eq wellFormedRun here
  refine ⟨text, ⟨before ++ gap, others, by simp [split], ?_⟩, cut⟩
  rw [endOf_eq_of_getLast? located] at stop
  simp [Span.through, start, stop]

theorem exists_lexeme_of_mem {position : Position} {source : List Char} {token : Token}
    (member : token ∈ beforeEnd (scanFrom position source)) :
    ∃ before char rest, source = before ++ char :: rest ∧ token = ⟨(lexeme char rest).kind,
      ⟨position.after before, position.after (before ++ (lexeme char rest).text)⟩⟩ := by
  induction source using source_induction generalizing position with
  | nil => simp at member
  | blank char source blank ih =>
    rw [scanFrom_blank _ _ blank] at member
    obtain ⟨before, first, rest, rfl, rfl⟩ := ih member
    exact ⟨char :: before, first, rest, rfl, rfl⟩
  | lexeme char source solid ih =>
    rw [beforeEnd_scanFrom_lexeme _ _ solid, List.mem_cons] at member
    rcases member with rfl | later
    · exact ⟨[], char, source, rfl, rfl⟩
    · obtain ⟨before, first, rest, split, rfl⟩ := ih later
      have whole := lexeme_text_append_rest char source
      rw [split] at whole
      exact ⟨(lexeme char source).text ++ before, first, rest, by simp [← whole], by simp⟩

theorem exists_text_of_mem {source : String} {token : Token}
    (member : token ∈ beforeEnd (scan source)) :
    ∃ text, text ≠ [] ∧ token.span.Encloses source text
      ∧ ((∀ value, token.kind ≠ .literal value) → text = token.kind.sourceText.toList) := by
  rw [scan_eq_scanFrom] at member
  obtain ⟨before, char, rest, split, rfl⟩ := exists_lexeme_of_mem member
  have whole := lexeme_text_append_rest char rest
  exact ⟨(lexeme char rest).text, lexeme_text_ne_nil char rest,
    ⟨before, (lexeme char rest).rest, by simp [split, whole], rfl⟩, text_lexeme⟩

theorem encloses_of_mem {source : String} {token : Token}
    (member : token ∈ beforeEnd (scan source)) (bare : ∀ value, token.kind ≠ .literal value) :
    token.span.Encloses source token.kind.sourceText.toList := by
  obtain ⟨text, _, encloses, same⟩ := exists_text_of_mem member
  exact same bare ▸ encloses

theorem offset_lt_of_mem {source : String} {token : Token}
    (member : token ∈ beforeEnd (scan source)) :
    token.span.start.offset < token.span.stop.offset := by
  obtain ⟨text, nonempty, encloses, _⟩ := exists_text_of_mem member
  exact (encloses.exactIn nonempty).nonempty

theorem scanFrom_ordered (position : Position) (source : List Char) :
    (∀ token ∈ beforeEnd (scanFrom position source), position.offset ≤ token.span.start.offset)
      ∧ (beforeEnd (scanFrom position source)).Pairwise fun first second =>
        first.span.Precedes second.span := by
  induction source using source_induction generalizing position with
  | nil => simp
  | blank char source blank ih =>
    have later := Position.offset_after position [char]
    obtain ⟨bounded, ordered⟩ := ih (position.advance char)
    rw [scanFrom_blank _ _ blank]
    refine ⟨fun token member => ?_, ordered⟩
    have := bounded token member
    simp only [Position.after_cons, Position.after_nil] at later
    omega
  | lexeme char source solid ih =>
    have later := Position.offset_after position (lexeme char source).text
    obtain ⟨bounded, ordered⟩ := ih (position.after (lexeme char source).text)
    rw [beforeEnd_scanFrom_lexeme _ _ solid, List.forall_mem_cons, List.pairwise_cons]
    refine ⟨⟨Nat.le_refl _, fun token member => ?_⟩, bounded, ordered⟩
    have := bounded token member
    omega

theorem pairwise_of_infix {source : String} {run : List Token}
    (inside : run <:+: beforeEnd (scan source)) :
    run.Pairwise fun first second => first.span.Precedes second.span := by
  rw [scan_eq_scanFrom] at inside
  exact (scanFrom_ordered .origin source.toList).2.sublist inside.sublist

theorem precedes_of_infix {source : String} {first last : Token} {middle : List Token}
    (inside : first :: middle ++ [last] <:+: beforeEnd (scan source)) :
    first.span.Precedes last.span := by
  have pairs := pairwise_of_infix inside
  rw [List.cons_append, List.pairwise_cons] at pairs
  exact pairs.1 last (by simp)

end Token

end Inquiry
