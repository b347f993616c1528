import Inquiry.Proofs.Query.Moves

set_option autoImplicit false

namespace Inquiry

-- The kinds that would end the current query. The names in it are of no account.
def Stage.completion : Stage → List TokenKind
  | between => [.identifier "operation", .openParen, .closeParen]
  | named _ => [.openParen, .closeParen]
  | opened _ | afterWord _ _ | afterArgument _ => [.closeParen]
  | afterComma _ | afterEquals _ _ => [.identifier "value", .closeParen]
  | called _ | selected _ => []
  | selecting _ _ _ => [.identifier "field", .closeBrace]

def Reading.completion (reading : Reading) : List Token :=
  reading.stage.completion.map fun kind => ⟨kind, .emptyAt .origin⟩

namespace Reading

theorem reads_completion (reading : Reading) :
    ∃ stage query, reading.Reads reading.completion ⟨reading.queries, stage⟩
      ∧ stage.Completes query := by
  obtain ⟨queries, stage⟩ := reading
  cases stage with
  | between =>
    exact ⟨_, _, .cons (.operation _ _ _) (.cons (.openCall _ _ _) (Moves.closeEmpty _ _ _).reads),
      .called _⟩
  | named operation =>
    exact ⟨_, _, .cons (.openCall _ _ _) (Moves.closeEmpty _ _ _).reads, .called _⟩
  | opened call => exact ⟨_, _, (Moves.closeEmpty _ _ _).reads, .called _⟩
  | afterComma call =>
    exact ⟨_, _, .cons (.word _ (.afterComma call) _ _) (Moves.close _ (.word _ _) _).reads,
      .called _⟩
  | afterWord call word => exact ⟨_, _, (Moves.close _ (.word call word) _).reads, .called _⟩
  | afterEquals call key =>
    exact ⟨_, _, .cons (.keyed _ _ _ (.word _) _) (Moves.close _ (.argument _) _).reads,
      .called _⟩
  | afterArgument call => exact ⟨_, _, (Moves.close _ (.argument call) _).reads, .called _⟩
  | called query => exact ⟨_, query, .nil _, .called query⟩
  | selecting query brace names =>
    exact ⟨_, _, .cons (.field _ _ _ _ _ _) (Moves.closeFields _ _ _ (by simp) _).reads,
      .selected _⟩
  | selected query => exact ⟨_, query, .nil _, .selected query⟩

theorem Moves.isEnd_eq_false {reading next : Reading} {token : Token}
    (move : reading.Moves token next) : token.kind.isEnd = false := by
  cases move with
  | keyed _ _ _ valueOf => cases valueOf <;> rfl
  | _ => rfl

theorem Reads.isEnd_eq_false {reading final : Reading} {tokens : List Token}
    (reads : reading.Reads tokens final) : ∀ token ∈ tokens, token.kind.isEnd = false := by
  induction reads with
  | nil => simp
  | cons move _ ih => exact List.forall_mem_cons.mpr ⟨move.isEnd_eq_false, ih⟩

theorem Reads.beforeEnd_eq_self {reading final : Reading} {tokens : List Token}
    (reads : reading.Reads tokens final) : Token.beforeEnd tokens = tokens := by
  rw [Token.beforeEnd, List.takeWhile_eq_self_iff]
  intro token member
  simp [reads.isEnd_eq_false token member]

theorem exists_resume_completion (reading : Reading) (lastEnd : Position) :
    ∃ batch, reading.resume lastEnd reading.completion = .ok batch := by
  obtain ⟨stage, query, reads, completes⟩ := reading.reads_completion
  refine ⟨.spanning (reading.queries ++ [query]) (by simp), ?_⟩
  apply (resume_eq_ok_iff _ _ _ _).mpr
  rw [reads.beforeEnd_eq_self]
  exact ⟨_, _, by simp, reads, .completes _ completes, rfl⟩

theorem resume_cons_of_isEnd (reading : Reading) (lastEnd : Position) {token : Token}
    (rest : List Token) (isEnd : token.kind.isEnd = true) :
    reading.resume lastEnd (token :: rest) = reading.finish token.span := by
  obtain ⟨kind, span⟩ := token
  cases kind <;> first | rfl | simp [TokenKind.isEnd] at isEnd

-- Only the place where the input ended last is carried over to the rest.
theorem Reads.resume {reading final : Reading} {tokens : List Token}
    (reads : reading.Reads tokens final) (lastEnd : Position) :
    ∃ stop, ∀ more, reading.resume lastEnd (tokens ++ more) = final.resume stop more := by
  induction reads generalizing lastEnd with
  | nil => exact ⟨lastEnd, fun _ => rfl⟩
  | @cons reading next final token rest move _ ih =>
    obtain ⟨stop, same⟩ := ih token.span.stop
    refine ⟨stop, fun more => ?_⟩
    rw [List.cons_append, resume_cons_of_isEnd_eq_false _ _ _ move.isEnd_eq_false, move.step]
    exact same more

theorem Reads.completes {reading : Reading} {tokens : List Token}
    (reads : start.Reads tokens reading) :
    ∃ batch, Batch.ofTokens (tokens ++ reading.completion) = .ok batch := by
  obtain ⟨stop, resumed⟩ := reads.resume .origin
  obtain ⟨batch, completed⟩ := reading.exists_resume_completion stop
  exact ⟨batch, (resumed _).trans completed⟩

end Reading

theorem Stage.span_prematureEnd (stage : Stage) (span : Span) :
    (stage.prematureEnd span).span = span := by
  unfold prematureEnd
  cases stage.openDelimiter? <;> rfl

theorem Stage.span_unexpected (stage : Stage) (token : Token) :
    (stage.unexpected token).span = token.span := by
  unfold unexpected
  split
  · rfl
  · exact stage.span_prematureEnd token.span
  · rfl

namespace Reading

theorem step_error {reading : Reading} {token : Token} {error : ParseError}
    (failed : reading.step token = .error error) : error = reading.stage.unexpected token := by
  unfold step at failed
  split at failed <;> split at failed <;> cases failed <;> rfl

theorem span_of_finish_error {reading : Reading} {stop : Span} {error : ParseError}
    (failed : reading.finish stop = .error error) : error.span = stop := by
  have batchError : ∀ queries, batchOf queries stop = .error error → error.span = stop := by
    intro queries failed
    cases queries <;> cases failed
    rfl
  unfold finish at failed
  split at failed
  · exact batchError _ failed
  · exact batchError _ failed
  · exact batchError _ failed
  · cases failed
    exact Stage.span_prematureEnd _ stop

theorem resume_error {reading : Reading} {lastEnd : Position} {tokens : List Token}
    {error : ParseError} (ended : ∃ token ∈ tokens, token.kind.isEnd = true)
    (failed : reading.resume lastEnd tokens = .error error) :
    ∃ before refused rest final, tokens = before ++ refused :: rest
      ∧ reading.Reads before final ∧ error.span = refused.span
      ∧ ∀ stop more, final.resume stop (refused :: more) = .error error := by
  induction tokens generalizing reading lastEnd with
  | nil => simp at ended
  | cons token rest ih =>
    cases isEnd : token.kind.isEnd with
    | true =>
      rw [resume_cons_of_isEnd _ _ _ isEnd] at failed
      refine ⟨[], token, rest, reading, rfl, .nil _, span_of_finish_error failed, ?_⟩
      intro stop more
      rw [resume_cons_of_isEnd _ _ _ isEnd, failed]
    | false =>
      rw [resume_cons_of_isEnd_eq_false _ _ _ isEnd] at failed
      cases stepped : reading.step token with
      | ok next =>
        rw [stepped] at failed
        have later : ∃ token ∈ rest, token.kind.isEnd = true := by simpa [isEnd] using ended
        obtain ⟨before, refused, after, final, rfl, reads, sameSpan, same⟩ := ih later failed
        exact ⟨token :: before, refused, after, final, rfl, .cons (moves_of_step stepped) reads,
          sameSpan, same⟩
      | error reason =>
        rw [stepped] at failed
        cases failed
        refine ⟨[], token, rest, reading, rfl, .nil _, ?_, ?_⟩
        · rw [step_error stepped, Stage.span_unexpected]
        · intro stop more
          rw [resume_cons_of_isEnd_eq_false _ _ _ isEnd, stepped]

end Reading

namespace Batch

/-- A failure is reported at the first token that makes the input hopeless: what stands before it
can be completed, and what stands after it changes nothing. -/
theorem ofTokens_fails_at_first_hopeless {tokens : List Token} {error : ParseError}
    (ended : ∃ token ∈ tokens, token.kind.isEnd = true) (failed : ofTokens tokens = .error error) :
    ∃ before refused rest, tokens = before ++ [refused] ++ rest ∧ error.span = refused.span
      ∧ (∀ more, ofTokens (before ++ [refused] ++ more) = .error error)
      ∧ ∃ completion batch, ofTokens (before ++ completion) = .ok batch := by
  obtain ⟨before, refused, rest, final, split, reads, sameSpan, same⟩ :=
    Reading.resume_error ended failed
  obtain ⟨batch, completed⟩ := reads.completes
  obtain ⟨stop, resumed⟩ := reads.resume .origin
  refine ⟨before, refused, rest, by simp [split], sameSpan, ?_, final.completion, batch, completed⟩
  intro more
  rw [List.append_assoc, ofTokens, resumed]
  exact same stop more

theorem ofTokens_fails_at_first_hopeless_brace :
    let kinds : List TokenKind := [.identifier "get", .openParen, .literal "a", .closeParen,
      .openBrace, .comma, .closeBrace, .semicolon, .identifier "get", .endOfInput]
    let tokens := kinds.zipIdx.map fun (kind, index) =>
      (⟨kind, .emptyAt ⟨0, index, index⟩⟩ : Token)
    ∃ error, error.span = .emptyAt ⟨0, 6, 6⟩ ∧ (∃ token ∈ tokens, token.kind.isEnd = true)
      ∧ ofTokens tokens = .error error
      ∧ ∃ before refused rest, tokens = before ++ [refused] ++ rest ∧ error.span = refused.span
        ∧ (∀ more, ofTokens (before ++ [refused] ++ more) = .error error)
        ∧ ∃ completion batch, ofTokens (before ++ completion) = .ok batch := by
  intro kinds tokens
  have ended : ∃ token ∈ tokens, token.kind.isEnd = true := by decide
  obtain ⟨error, failed, place⟩ : ∃ error, ofTokens tokens = .error error
      ∧ error.span = .emptyAt ⟨0, 6, 6⟩ := ⟨_, rfl, rfl⟩
  exact ⟨error, place, ended, failed, ofTokens_fails_at_first_hopeless ended failed⟩

end Batch

end Inquiry
