import Inquiry.Proofs.Query.FirstError

set_option autoImplicit false

namespace Inquiry

theorem TokenKind.isEnd_iff {kind : TokenKind} : kind.isEnd = true ↔ kind = .endOfInput := by
  cases kind <;> simp [isEnd]

namespace Token

/-- The tokens up to the first mark of the end. If there is none it is added, empty, where the last
token ends, or at `lastEnd` without any token. -/
def closeAfter (lastEnd : Position) : List Token → List Token
  | [] => [⟨.endOfInput, .emptyAt lastEnd⟩]
  | token :: rest =>
    if token.kind.isEnd then [token] else token :: closeAfter token.span.stop rest

def closed (tokens : List Token) : List Token := closeAfter .origin tokens

theorem closeAfter_of_isEnd (lastEnd : Position) {token : Token} (rest : List Token)
    (isEnd : token.kind.isEnd = true) : closeAfter lastEnd (token :: rest) = [token] :=
  if_pos isEnd

theorem closeAfter_of_isEnd_eq_false (lastEnd : Position) {token : Token} (rest : List Token)
    (inner : token.kind.isEnd = false) :
    closeAfter lastEnd (token :: rest) = token :: closeAfter token.span.stop rest :=
  if_neg (by simp [inner])

theorem exists_isEnd_closeAfter (lastEnd : Position) (tokens : List Token) :
    ∃ token ∈ closeAfter lastEnd tokens, token.kind.isEnd = true := by
  induction tokens generalizing lastEnd with
  | nil => exact ⟨_, List.mem_singleton_self _, rfl⟩
  | cons token rest ih =>
    cases isEnd : token.kind.isEnd with
    | true => exact ⟨token, by simp [closeAfter_of_isEnd _ _ isEnd], isEnd⟩
    | false =>
      obtain ⟨last, member, lastEnds⟩ := ih token.span.stop
      rw [closeAfter_of_isEnd_eq_false _ _ isEnd]
      exact ⟨last, List.mem_cons_of_mem token member, lastEnds⟩

theorem closeAfter_append_of_isEnd (lastEnd : Position) {before : List Token} {mark : Token}
    (rest : List Token) (inner : ∀ token ∈ before, token.kind.isEnd = false)
    (isEnd : mark.kind.isEnd = true) :
    closeAfter lastEnd (before ++ mark :: rest) = before ++ [mark] := by
  induction before generalizing lastEnd with
  | nil => exact closeAfter_of_isEnd lastEnd rest isEnd
  | cons token before ih =>
    obtain ⟨here, later⟩ := List.forall_mem_cons.mp inner
    rw [List.cons_append, closeAfter_of_isEnd_eq_false _ _ here, ih _ later, List.cons_append]

theorem closeAfter_of_forall (lastEnd : Position) {tokens : List Token}
    (inner : ∀ token ∈ tokens, token.kind.isEnd = false) :
    closeAfter lastEnd tokens = tokens ++ [⟨.endOfInput,
      .emptyAt (tokens.getLast?.elim lastEnd fun last => last.span.stop)⟩] := by
  induction tokens generalizing lastEnd with
  | nil => rfl
  | cons token rest ih =>
    obtain ⟨here, later⟩ := List.forall_mem_cons.mp inner
    rw [closeAfter_of_isEnd_eq_false _ _ here, ih _ later, List.getLast?_cons]
    cases rest.getLast? <;> rfl

end Token

theorem Reading.resume_closeAfter (reading : Reading) (lastEnd : Position) (tokens : List Token) :
    reading.resume lastEnd (Token.closeAfter lastEnd tokens) = reading.resume lastEnd tokens := by
  induction tokens generalizing reading lastEnd with
  | nil => rfl
  | cons token rest ih =>
    cases isEnd : token.kind.isEnd with
    | true =>
      rw [Token.closeAfter_of_isEnd _ _ isEnd, resume_cons_of_isEnd _ _ _ isEnd,
        resume_cons_of_isEnd _ _ _ isEnd]
    | false =>
      rw [Token.closeAfter_of_isEnd_eq_false _ _ isEnd, resume_cons_of_isEnd_eq_false _ _ _ isEnd,
        resume_cons_of_isEnd_eq_false _ _ _ isEnd]
      cases reading.step token with
      | ok next => exact ih next token.span.stop
      | error error => rfl

namespace Batch

theorem ofTokens_closed (tokens : List Token) : ofTokens (Token.closed tokens) = ofTokens tokens :=
  Reading.start.resume_closeAfter .origin tokens

/-- What stands behind the first mark of the end is not read, and without a mark the result is the
one that a mark right behind the last token gives. -/
theorem ofTokens_ends_alike (tokens : List Token) :
    (∀ before mark rest, tokens = before ++ mark :: rest → mark.kind = .endOfInput →
      (∀ token ∈ before, token.kind ≠ .endOfInput) →
      ofTokens tokens = ofTokens (before ++ [mark]))
    ∧ ((∀ token ∈ tokens, token.kind ≠ .endOfInput) →
      ofTokens tokens = ofTokens (tokens ++ [⟨.endOfInput,
        .emptyAt (tokens.getLast?.elim ⟨0, 0, 0⟩ fun last => last.span.stop)⟩])) := by
  simp only [← TokenKind.isEnd_iff, Ne, Bool.not_eq_true]
  constructor
  case left =>
    intro before mark rest split isEnd inner
    rw [split, ← ofTokens_closed, Token.closed,
      Token.closeAfter_append_of_isEnd _ rest inner isEnd]
  case right =>
    intro inner
    rw [← ofTokens_closed, Token.closed, Token.closeAfter_of_forall _ inner]
    rfl

theorem ofTokens_ends_alike_unclosed :
    let place := fun (kind : TokenKind) (column : Nat) =>
      (⟨kind, ⟨⟨0, column, column⟩, ⟨0, column + 1, column + 1⟩⟩⟩ : Token)
    let call := [place (.identifier "f") 2, place .openParen 3]
    let mark := place .endOfInput 7
    let later := [place .closeParen 8, place .endOfInput 9]
    (∃ error, ofTokens call = .error error ∧ error.span = .emptyAt ⟨0, 4, 4⟩
      ∧ ofTokens (call ++ [⟨.endOfInput, .emptyAt ⟨0, 4, 4⟩⟩]) = .error error)
    ∧ ∃ error, ofTokens (call ++ mark :: later) = .error error ∧ error.span = mark.span
      ∧ ofTokens (call ++ [mark]) = .error error := by
  intro place call mark later
  have inner : ∀ token ∈ call, token.kind ≠ .endOfInput := by decide
  have bare := (ofTokens_ends_alike call).2 inner
  have marked := (ofTokens_ends_alike (call ++ mark :: later)).1 call mark later rfl rfl inner
  obtain ⟨error, failed, place⟩ : ∃ error, ofTokens call = .error error
      ∧ error.span = .emptyAt ⟨0, 4, 4⟩ := ⟨_, rfl, rfl⟩
  obtain ⟨other, otherFailed, otherPlace⟩ : ∃ error, ofTokens (call ++ mark :: later) =
      .error error ∧ error.span = mark.span := ⟨_, rfl, rfl⟩
  exact ⟨⟨error, failed, place, bare ▸ failed⟩, other, otherFailed, otherPlace,
    marked ▸ otherFailed⟩

end Batch

end Inquiry
