import Inquiry.Proofs.Token.Literals
import Inquiry.Proofs.Token.Tiling

set_option autoImplicit false

namespace Inquiry

open Token

def TokenKind.WrittenAs (text after : List Char) : TokenKind → Prop
  | identifier name => text = name.toList ∧ IsName name ∧ Separates after
  | literal value => ∃ body, text = '"' :: body ++ ['"'] ∧ Cooks body value.toList
  | malformed _ got => text = got.toList
  | endOfInput => False
  | sign => text = sign.sourceText.toList

theorem Token.writtenAs_lexeme (char : Char) (rest : List Char) :
    (lexeme char rest).kind.WrittenAs (lexeme char rest).text (lexeme char rest).rest := by
  unfold lexeme
  split
  case h_8 =>
    unfold literalLexeme
    split
    next body after split =>
      have cooks := cooks_of_splitLiteral split
      exact ⟨body, rfl, by rwa [String.toList_ofList]⟩
    next => simp [TokenKind.WrittenAs]
  case h_9 =>
    split
    next starts =>
      have name : IsName (String.ofList (char :: rest.takeWhile continuesIdentifier)) :=
        isName_of_lexeme (congrArg Lexeme.kind (lexeme_of_startsIdentifier rest starts))
      exact ⟨by simp [identifierLexeme], name, separates_dropWhile rest⟩
    next => simp [unexpectedCharacter, TokenKind.WrittenAs]
  all_goals simp [TokenKind.WrittenAs, TokenKind.sourceText]

inductive Token.Tiles : List Char → List Char → List Token → Prop
  | last {before gap : List Char} (blank : ∀ char ∈ gap, isBlank char = true) :
      Tiles before gap [⟨.endOfInput, .emptyAt (Position.origin.after (before ++ gap))⟩]
  | token {before gap text after : List Char} {kind : TokenKind} {tokens : List Token}
      (blank : ∀ char ∈ gap, isBlank char = true) (nonempty : text ≠ [])
      (written : kind.WrittenAs text after) (rest : Tiles (before ++ gap ++ text) after tokens) :
      Tiles before (gap ++ text ++ after) (⟨kind, ⟨Position.origin.after (before ++ gap),
        Position.origin.after (before ++ gap ++ text)⟩⟩ :: tokens)

theorem Token.tiles_scanFrom (before after : List Char) :
    Tiles before after (scanFrom (Position.origin.after before) after) := by
  induction after using gap_induction generalizing before with
  | last gap blank =>
    rw [scanFrom_blanks _ blank, ← Position.after_append]
    exact .last blank
  | lexeme gap char rest blank solid ih =>
    have later := ih (before ++ gap ++ (lexeme char rest).text)
    have tiles := Tiles.token blank (lexeme_text_ne_nil char rest) (writtenAs_lexeme char rest) later
    rw [scanFrom_gap _ _ blank, scanFrom_lexeme _ _ solid]
    simpa [lexeme_text_append_rest] using tiles

def Token.StandsIn (source : String) (token : Token) : Prop :=
  ∃ before text after, source.toList = before ++ text ++ after ∧ text ≠ []
    ∧ token.span = ⟨Position.origin.after before, Position.origin.after (before ++ text)⟩
    ∧ token.kind.WrittenAs text after

theorem Token.StandsIn.exactIn {source : String} {token : Token} (stands : token.StandsIn source) :
    token.span.ExactIn source := by
  obtain ⟨before, text, after, split, nonempty, span, -⟩ := stands
  have encloses : token.span.Encloses source text := ⟨before, after, split, span⟩
  exact encloses.exactIn nonempty

def Span.BlanksBetween (source : String) (first second : Span) : Prop :=
  ∃ gap, (Span.mk first.stop second.start).Encloses source gap ∧ ∀ char ∈ gap, isBlank char = true

namespace Token.Tiles

variable {before after : List Char} {tokens : List Token}

theorem length_le (tiles : Tiles before after tokens) :
    tokens.length ≤ byteLength after + 1 := by
  induction tiles with
  | last => simp
  | @token before gap text after kind tokens blank nonempty written rest ih =>
    have wide : byteLength text ≠ 0 := fun empty => nonempty (eq_nil_of_byteLength_eq_zero empty)
    simp only [List.length_cons, byteLength_append]
    omega

theorem exists_front (tiles : Tiles before after tokens) :
    ∃ front, tokens = front ++ [⟨.endOfInput, .emptyAt (Position.origin.after (before ++ after))⟩]
      ∧ ∀ token ∈ front, token.kind ≠ .endOfInput := by
  induction tiles with
  | last => exact ⟨[], rfl, by simp⟩
  | @token before gap text after kind tokens blank nonempty written rest ih =>
    obtain ⟨front, same, kinds⟩ := ih
    have whole : before ++ (gap ++ text ++ after) = before ++ gap ++ text ++ after := by simp
    have solid : kind ≠ .endOfInput := by
      rintro rfl
      exact written
    rw [whole, same]
    exact ⟨_ :: front, rfl, List.forall_mem_cons.mpr ⟨solid, kinds⟩⟩

theorem standsIn (tiles : Tiles before after tokens) {source : String}
    (split : source.toList = before ++ after) :
    ∀ token ∈ tokens, token.kind ≠ .endOfInput → token.StandsIn source := by
  induction tiles with
  | last => simp
  | @token before gap text after kind tokens blank nonempty written rest ih =>
    have here : source.toList = before ++ gap ++ text ++ after := by simp [split]
    exact List.forall_mem_cons.mpr
      ⟨fun _ => ⟨before ++ gap, text, after, here, nonempty, rfl, written⟩, ih here⟩

theorem ordered (tiles : Tiles before after tokens) :
    (∀ span ∈ tokens.map Token.span, byteLength before ≤ span.start.offset)
      ∧ (tokens.map Token.span).Pairwise Span.Precedes := by
  have offset : ∀ text, (Position.origin.after text).offset = byteLength text :=
    fun text => by rw [Position.origin_after]
  induction tiles with
  | last => simp [Span.emptyAt, offset, -Position.after_append]
  | @token before gap text after kind tokens blank nonempty written rest ih =>
    obtain ⟨bounded, ordered⟩ := ih
    rw [List.map_cons, List.forall_mem_cons, List.pairwise_cons]
    refine ⟨⟨?_, fun span member => ?_⟩, fun span member => ?_, ordered⟩
    · rw [offset, byteLength_append]
      omega
    · have later := bounded span member
      simp only [byteLength_append] at later
      omega
    · rw [Span.Precedes, offset]
      exact bounded span member

theorem chain (tiles : Tiles before after tokens) {source : String}
    (split : source.toList = before ++ after) {first : Span}
    (stop : first.stop = Position.origin.after before) :
    (first :: tokens.map Token.span).IsChain (Span.BlanksBetween source) := by
  induction tiles generalizing first with
  | @last before gap blank =>
    refine List.isChain_cons_cons.mpr
      ⟨⟨gap, ⟨before, [], by simp [split], ?_⟩, blank⟩, .singleton _⟩
    rw [stop]
    rfl
  | @token before gap text after kind tokens blank nonempty written rest ih =>
    refine List.isChain_cons_cons.mpr ⟨⟨gap, ⟨before, text ++ after, by simp [split], ?_⟩, blank⟩,
      ih (by simp [split]) rfl⟩
    rw [stop]

end Token.Tiles

theorem Token.tiles_scan (source : String) : Tiles [] source.toList (scan source) := by
  rw [scan_eq_scanFrom]
  exact tiles_scanFrom [] source.toList

namespace Lexer

def ask (lexer : Lexer) : Nat → Option (List (Option Token))
  | 0 => some []
  | count + 1 => do
    let (answer, later) ← lexer.next
    let others ← later.ask count
    return answer :: others

theorem eq_of_next_none {lexer later : Lexer} (read : lexer.next = some (none, later)) :
    later = lexer := by
  unfold next at read
  split at read
  next => cases read; rfl
  next =>
    simp only [Option.bind_eq_bind, Option.bind_eq_some_iff] at read
    obtain ⟨gap, -, first, -, read⟩ := read
    cases first with
    | none => cases read
    | some char =>
      simp only [Option.bind_eq_some_iff] at read
      obtain ⟨_, -, text, -, read⟩ := read
      cases read

theorem ask_eq {lexer : Lexer} {tokens : List Token} (found : lexer.tokens? = some tokens)
    (count : Nat) :
    lexer.ask count = some ((List.range count).map fun place => tokens[place]?) := by
  induction count generalizing lexer tokens with
  | zero => rfl
  | succ count ih =>
    have scanned := found
    rw [tokens?] at found
    rw [ask, List.range_succ_eq_map, List.map_cons, List.map_map]
    cases read : lexer.next with
    | none =>
      rw [read] at found
      cases found
    | some answer =>
      obtain ⟨token?, later⟩ := answer
      cases token? with
      | none =>
        rw [read] at found
        cases found
        obtain rfl := eq_of_next_none read
        simp [ih scanned, Function.comp_def]
      | some token =>
        rw [read] at found
        obtain ⟨rest, others, rfl⟩ := Option.map_eq_some_iff.mp found
        simp [ih others, Function.comp_def]

end Lexer

/-- Every source is gone through to its end, with nothing cut where it cannot be cut, and only
blanks are outside of its tokens. -/
theorem Token.scan_tiles (source : String) :
    ∃ front last, scan source = front ++ [last]
      ∧ (∀ count, (Lexer.ofSource source).ask count =
        some ((List.range count).map fun place => (front ++ [last])[place]?))
      ∧ (front ++ [last]).length ≤ byteLength source.toList + 1
      ∧ last = ⟨.endOfInput,
        .emptyAt ((LineIndex.ofSource source).positionAt (byteLength source.toList))⟩
      ∧ (∀ token ∈ front, token.kind ≠ .endOfInput ∧ token.span.ExactIn source
        ∧ token.StandsIn source)
      ∧ ((front ++ [last]).map Token.span).Pairwise Span.Precedes
      ∧ (.emptyAt .origin :: (front ++ [last]).map Token.span).IsChain
        (Span.BlanksBetween source) := by
  have found : (Lexer.ofSource source).tokens? = some (scan source) := by
    rw [(Lexer.between_ofSource rfl).tokens?_eq, scan_eq_scanFrom]
    rfl
  have stop : (LineIndex.ofSource source).positionAt (byteLength source.toList) =
      Position.origin.after source.toList :=
    LineIndex.positionAt_byteLength (List.append_nil source.toList).symm
  have tiles := tiles_scan source
  have chain : (.emptyAt .origin :: (scan source).map Token.span).IsChain
      (Span.BlanksBetween source) := tiles.chain rfl rfl
  obtain ⟨front, whole, solid⟩ := tiles.exists_front
  have stand := tiles.standsIn rfl
  have length := tiles.length_le
  have ordered := tiles.ordered.2
  rw [whole] at found stand length ordered chain
  refine ⟨front, _, whole, Lexer.ask_eq found, length, by rw [stop]; rfl, fun token member => ?_,
    ordered, chain⟩
  have stands := stand token (List.mem_append_left _ member) (solid token member)
  exact ⟨solid token member, stands.exactIn, stands⟩

end Inquiry
