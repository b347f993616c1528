import Inquiry.Proofs.Query.EndOfInput

set_option autoImplicit false

namespace Inquiry

namespace Token

/-- The open delimiters after one more token, the innermost first. A closing delimiter closes the
innermost one if they belong together. -/
def leaveOpen (opened : List Token) (token : Token) : List Token :=
  match token.kind, opened with
  | .openParen, _ | .openBrace, _ => token :: opened
  | .closeParen, ⟨.openParen, _⟩ :: outer => outer
  | .closeBrace, ⟨.openBrace, _⟩ :: outer => outer
  | _, _ => opened

def leftOpen (tokens : List Token) : List Token := tokens.foldl leaveOpen []

end Token

def Stage.opener? : Stage → Option Token
  | opened call | afterComma call | afterWord call _ | afterEquals call _ | afterArgument call =>
    some ⟨.openParen, call.paren⟩
  | selecting _ brace _ => some ⟨.openBrace, brace⟩
  | between | named _ | called _ | selected _ => none

theorem Stage.openDelimiter?_eq (stage : Stage) :
    stage.openDelimiter? =
      stage.opener?.map fun opener => (opener.kind.sourceText, opener.span) := by
  cases stage <;> rfl

namespace Reading

theorem Moves.leaveOpen {reading next : Reading} {token : Token}
    (move : reading.Moves token next) :
    Token.leaveOpen reading.stage.opener?.toList token = next.stage.opener?.toList := by
  cases move with
  | word _ awaits | literal _ awaits => cases awaits <;> rfl
  | keyed _ _ _ valueOf => cases valueOf <;> rfl
  | comma _ holds | close _ holds => cases holds <;> rfl
  | endQuery _ completes => cases completes <;> rfl
  | _ => rfl

theorem Reads.foldl_leaveOpen {reading final : Reading} {tokens : List Token}
    (reads : reading.Reads tokens final) :
    tokens.foldl Token.leaveOpen reading.stage.opener?.toList = final.stage.opener?.toList := by
  induction reads with
  | nil => rfl
  | cons move _ ih => rw [List.foldl_cons, move.leaveOpen, ih]

theorem Reads.leftOpen_eq {reading : Reading} {tokens : List Token}
    (reads : start.Reads tokens reading) :
    Token.leftOpen tokens = reading.stage.opener?.toList := reads.foldl_leaveOpen

theorem Moves.eq_start {reading next : Reading} {token : Token}
    (move : reading.Moves token next) (back : next = start) :
    reading = start ∧ token.kind = .semicolon := by
  cases move with
  | skipSemicolon queries span => exact ⟨back, rfl⟩
  | endQuery queries completes span => simp [start] at back
  | _ => cases back

theorem Reads.eq_start {reading final : Reading} {tokens : List Token}
    (reads : reading.Reads tokens final) (back : final = start) :
    reading = start ∧ ∀ token ∈ tokens, token.kind = .semicolon := by
  induction reads with
  | nil => exact ⟨back, by simp⟩
  | cons move _ ih =>
    obtain ⟨same, later⟩ := ih back
    obtain ⟨same, here⟩ := move.eq_start same
    exact ⟨same, List.forall_mem_cons.mpr ⟨here, later⟩⟩

theorem Moves.eq_start_of_semicolon {next : Reading} {token : Token}
    (move : start.Moves token next) (semicolon : token.kind = .semicolon) : next = start := by
  have stepped := move.step
  obtain ⟨kind, span⟩ := token
  cases semicolon
  cases stepped
  rfl

theorem Reads.eq_start_of_semicolons {reading final : Reading} {tokens : List Token}
    (reads : reading.Reads tokens final) (fresh : reading = start)
    (semicolons : ∀ token ∈ tokens, token.kind = .semicolon) : final = start := by
  induction reads with
  | nil => exact fresh
  | cons move _ ih =>
    obtain ⟨here, later⟩ := List.forall_mem_cons.mp semicolons
    rw [fresh] at move
    exact ih (move.eq_start_of_semicolon here) later

theorem Reads.eq_start_iff {reading : Reading} {tokens : List Token}
    (reads : start.Reads tokens reading) :
    reading = start ↔ ∀ token ∈ tokens, token.kind = .semicolon :=
  ⟨fun back => (reads.eq_start back).2, reads.eq_start_of_semicolons rfl⟩

end Reading

namespace Stage

variable (stage : Stage) {token : Token}

theorem unexpected_of_end (isEnd : token.kind = .endOfInput) :
    stage.unexpected token = stage.prematureEnd token.span := by
  rw [unexpected, isEnd]

theorem unexpected_of_malformed {message got : String}
    (malformed : token.kind = .malformed message got) :
    stage.unexpected token = .ofMalformed message token.span got := by
  rw [unexpected, malformed]

theorem kind_unexpected_of_misfit (solid : token.kind ≠ .endOfInput)
    (wellFormed : token.kind.isMalformed = false) :
    ∃ expected found, (stage.unexpected token).kind = .unexpectedToken expected found := by
  unfold unexpected
  split
  next malformed => rw [malformed] at wellFormed; cases wellFormed
  next isEnd => exact absurd isEnd solid
  next => exact ⟨_, _, rfl⟩

theorem prematureEnd_of_opener {opener : Token} (found : stage.opener? = some opener)
    (span : Span) :
    (stage.prematureEnd span).kind = .unclosedDelimiter opener.kind.sourceText
      ∧ ∃ complaint, (stage.prematureEnd span).message = complaint
        ++ s!" (unclosed '{opener.kind.sourceText}' opened at {opener.span.start.display})" := by
  unfold prematureEnd
  rw [stage.openDelimiter?_eq, found]
  refine ⟨rfl, (stage.complaint .endOfInput).1, ?_⟩
  simp [String.append_assoc, ToString.toString]

theorem got_prematureEnd (span : Span) : (stage.prematureEnd span).got = "end of input" := by
  unfold prematureEnd
  cases stage.openDelimiter? <;> rfl

theorem got_unexpected (token : Token) :
    (stage.unexpected token).got = token.kind.sourceText := by
  unfold unexpected
  split
  next malformed => rw [malformed]; rfl
  next isEnd => rw [isEnd]; exact stage.got_prematureEnd token.span
  next => rfl

theorem kind_unexpected_unclosed_iff :
    (∃ delimiter, (stage.unexpected token).kind = .unclosedDelimiter delimiter) ↔
      token.kind = .endOfInput ∧ stage.opener? ≠ none := by
  unfold unexpected
  split
  next malformed => simp [malformed, ParseError.ofMalformed]
  next isEnd =>
    rw [prematureEnd, stage.openDelimiter?_eq, isEnd]
    cases stage.opener? <;> simp
  next solid => simpa using fun isEnd => absurd isEnd solid

theorem kind_prematureEnd_of_closed (closed : stage.opener? = none) (span : Span) :
    ∃ expected, (stage.prematureEnd span).kind = .unexpectedEnd expected := by
  unfold prematureEnd
  rw [stage.openDelimiter?_eq, closed]
  exact ⟨_, rfl⟩

end Stage

namespace Reading

inductive Reports : Reading → Token → ParseError → Prop where
  | empty {token : Token} (isEnd : token.kind = .endOfInput) :
    Reports start token (emptyBatch token.span)
  | misfit {reading : Reading} {token : Token}
    (begun : token.kind = .endOfInput → reading ≠ start) :
    Reports reading token (reading.stage.unexpected token)

theorem Reports.span_eq {reading : Reading} {token : Token} {error : ParseError}
    (reports : reading.Reports token error) : error.span = token.span := by
  cases reports with
  | empty => rfl
  | misfit => exact reading.stage.span_unexpected token

theorem Reports.got_eq {reading : Reading} {token : Token} {error : ParseError}
    (reports : reading.Reports token error) : error.got = token.kind.sourceText := by
  cases reports with
  | empty isEnd => rw [isEnd]; rfl
  | misfit => exact reading.stage.got_unexpected token

theorem not_completes_of_finish {queries : List Query} {stage : Stage} {stop : Span}
    {error : ParseError} (failed : finish ⟨queries, stage⟩ stop = .error error) {query : Query} :
    ¬ stage.Completes query := by
  intro completes
  have finished := (finish_eq_ok_iff ⟨queries, stage⟩ stop _).mpr
    ⟨queries ++ [query], by simp, .completes queries completes, rfl⟩
  rw [failed] at finished
  cases finished

theorem reports_of_finish {reading : Reading} {token : Token} {error : ParseError}
    (isEnd : token.kind = .endOfInput) (failed : reading.finish token.span = .error error) :
    reading.Reports token error := by
  obtain ⟨queries, stage⟩ := reading
  have misfit (begun : (⟨queries, stage⟩ : Reading) ≠ start) :
      Reports ⟨queries, stage⟩ token (stage.prematureEnd token.span) :=
    stage.unexpected_of_end isEnd ▸ .misfit fun _ => begun
  cases stage with
  | between =>
    cases queries with
    | nil =>
      cases failed
      exact .empty isEnd
    | cons => cases failed
  | called query => exact absurd (.called query) (not_completes_of_finish failed)
  | selected query => exact absurd (.selected query) (not_completes_of_finish failed)
  | _ =>
    cases failed
    exact misfit (by simp [start])

-- A token that can follow cannot fail whatever comes after it, since the rest can be completed.
theorem reports_of_resume {reading : Reading} {token : Token} {error : ParseError}
    (failed : ∀ stop more, reading.resume stop (token :: more) = .error error) :
    reading.Reports token error := by
  cases isEnd : token.kind.isEnd with
  | true =>
    have finished := failed .origin []
    rw [resume_cons_of_isEnd _ _ _ isEnd] at finished
    exact reports_of_finish (TokenKind.isEnd_iff.mp isEnd) finished
  | false =>
    simp only [resume_cons_of_isEnd_eq_false _ _ _ isEnd] at failed
    cases stepped : reading.step token with
    | ok next =>
      obtain ⟨batch, completed⟩ := next.exists_resume_completion token.span.stop
      have failed := failed .origin next.completion
      rw [stepped] at failed
      simp only [completed] at failed
      cases failed
    | error reason =>
      have failed := failed .origin []
      rw [stepped] at failed
      cases failed
      rw [step_error stepped]
      refine .misfit fun last => ?_
      rw [last] at isEnd
      cases isEnd

end Reading

structure ParseError.Blames (error : ParseError) (before : List Token) (refused : Token) :
    Prop where
  unclosed_iff : (∃ delimiter, error.kind = .unclosedDelimiter delimiter) ↔
    refused.kind = .endOfInput ∧ Token.leftOpen before ≠ []
  unclosed : ∀ opener outer, refused.kind = .endOfInput →
    Token.leftOpen before = opener :: outer →
    error.kind = .unclosedDelimiter opener.kind.sourceText
      ∧ ∃ complaint, error.message = complaint
        ++ s!" (unclosed '{opener.kind.sourceText}' opened at {opener.span.start.display})"
  empty : refused.kind = .endOfInput → Token.leftOpen before = [] →
    (∀ token ∈ before, token.kind = .semicolon) → error.kind = .emptyQuery
  premature : refused.kind = .endOfInput → Token.leftOpen before = [] →
    (∃ token ∈ before, token.kind ≠ .semicolon) → ∃ expected, error.kind = .unexpectedEnd expected
  malformed : ∀ message got, refused.kind = .malformed message got →
    error.kind = .lexical ∧ error.message = message ∧ error.got = got
  misfit : refused.kind ≠ .endOfInput → refused.kind.isMalformed = false →
    ∃ expected found, error.kind = .unexpectedToken expected found

namespace Reading

theorem blames_emptyBatch {before : List Token} {refused : Token}
    (isEnd : refused.kind = .endOfInput) (closed : Token.leftOpen before = [])
    (semicolons : ∀ token ∈ before, token.kind = .semicolon) :
    (emptyBatch refused.span).Blames before refused := by
  constructor
  case unclosed_iff => simp [emptyBatch, closed]
  case unclosed => simp [closed]
  case empty => exact fun _ _ _ => rfl
  case premature =>
    rintro - - ⟨token, member, other⟩
    exact absurd (semicolons token member) other
  case malformed => simp [isEnd]
  case misfit => exact fun solid _ => absurd isEnd solid

theorem Reads.blames_unexpected {before : List Token} {reading : Reading} {refused : Token}
    (reads : start.Reads before reading)
    (begun : refused.kind = .endOfInput → reading ≠ start) :
    (reading.stage.unexpected refused).Blames before refused := by
  have leftOpen := reads.leftOpen_eq
  constructor
  case unclosed_iff =>
    rw [reading.stage.kind_unexpected_unclosed_iff, leftOpen, Ne, Ne, Option.toList_eq_nil_iff]
  case unclosed =>
    intro opener outer isEnd opened
    have found : reading.stage.opener? = some opener := by
      rw [← Option.head?_toList (o := reading.stage.opener?), ← leftOpen, opened, List.head?_cons]
    rw [reading.stage.unexpected_of_end isEnd]
    exact reading.stage.prematureEnd_of_opener found refused.span
  case empty =>
    intro isEnd _ semicolons
    exact absurd (reads.eq_start_iff.mpr semicolons) (begun isEnd)
  case premature =>
    intro isEnd closed _
    have nothing : reading.stage.opener? = none := by
      rwa [leftOpen, Option.toList_eq_nil_iff] at closed
    rw [reading.stage.unexpected_of_end isEnd]
    exact reading.stage.kind_prematureEnd_of_closed nothing refused.span
  case malformed =>
    intro message got malformed
    rw [reading.stage.unexpected_of_malformed malformed]
    exact ⟨rfl, rfl, rfl⟩
  case misfit => exact reading.stage.kind_unexpected_of_misfit

theorem Reports.blames {before : List Token} {reading : Reading} {refused : Token}
    {error : ParseError} (reports : reading.Reports refused error)
    (reads : start.Reads before reading) : error.Blames before refused := by
  cases reports with
  | empty isEnd => exact blames_emptyBatch isEnd reads.leftOpen_eq (reads.eq_start_iff.mp rfl)
  | misfit begun => exact reads.blames_unexpected begun

end Reading

namespace Batch

theorem exists_refusal {tokens : List Token} {error : ParseError}
    (failed : ofTokens tokens = .error error) :
    ∃ before refused rest reading, Token.closed tokens = before ++ refused :: rest
      ∧ Reading.start.Reads before reading ∧ reading.Reports refused error
      ∧ ∀ more, ofTokens (before ++ refused :: more) = .error error := by
  have ended := Token.exists_isEnd_closeAfter .origin tokens
  rw [← ofTokens_closed] at failed
  obtain ⟨before, refused, rest, reading, split, reads, _, same⟩ :=
    Reading.resume_error ended failed
  obtain ⟨stop, resumed⟩ := reads.resume .origin
  exact ⟨before, refused, rest, reading, split, reads, Reading.reports_of_resume same,
    fun more => (resumed _).trans (same stop more)⟩

/-- A delimiter is reported as unclosed exactly at the end of input, if one was left open, and it is
the last one. While reading goes on, at most one is open. -/
theorem ofTokens_blames_left_open (tokens : List Token) :
    (∀ consumed reading, consumed <+: tokens → Reading.start.Reads consumed reading →
      (Token.leftOpen consumed).length ≤ 1
      ∧ reading.stage.openDelimiter? =
        (Token.leftOpen consumed).head?.map fun opener => (opener.kind.sourceText, opener.span))
    ∧ ∀ error, ofTokens tokens = .error error →
      ∃ before refused rest, Token.closed tokens = before ++ refused :: rest
        ∧ (∀ more, ofTokens (before ++ refused :: more) = .error error)
        ∧ (∃ completion batch, ofTokens (before ++ completion) = .ok batch)
        ∧ error.Blames before refused := by
  constructor
  case left =>
    intro consumed reading _ reads
    rw [reads.leftOpen_eq, reading.stage.openDelimiter?_eq]
    cases reading.stage.opener? <;> exact ⟨by simp, rfl⟩
  case right =>
    intro error failed
    obtain ⟨before, refused, rest, reading, split, reads, reports, same⟩ := exists_refusal failed
    obtain ⟨batch, completed⟩ := reads.completes
    exact ⟨before, refused, rest, split, same, ⟨_, batch, completed⟩, reports.blames reads⟩

theorem ofTokens_blames_left_open_brace :
    let kinds : List TokenKind := [.identifier "f", .openParen, .literal "a", .closeParen,
      .openBrace, .identifier "x", .comma]
    let tokens := kinds.zipIdx.map fun (kind, index) =>
      (⟨kind, .emptyAt ⟨0, index, index⟩⟩ : Token)
    let paren : Token := ⟨.openParen, .emptyAt ⟨0, 1, 1⟩⟩
    let brace : Token := ⟨.openBrace, .emptyAt ⟨0, 4, 4⟩⟩
    (∃ reading, Reading.start.Reads (tokens.take 2) reading
      ∧ reading.stage.openDelimiter? = some ("(", paren.span)
      ∧ Token.leftOpen (tokens.take 2) = [paren] ∧ (Token.leftOpen (tokens.take 2)).length ≤ 1)
    ∧ ∃ error, ofTokens tokens = .error error
      ∧ error.message = "expected field name or '\x7d' (unclosed '\x7b' opened at 1:5)"
      ∧ Token.leftOpen tokens = [brace]
      ∧ ∃ before refused rest, Token.closed tokens = before ++ refused :: rest
        ∧ (∀ more, ofTokens (before ++ refused :: more) = .error error)
        ∧ (∃ completion batch, ofTokens (before ++ completion) = .ok batch)
        ∧ error.Blames before refused := by
  intro kinds tokens paren brace
  have reads : Reading.start.Reads (tokens.take 2) ⟨[], .opened ⟨⟨"f", _⟩, _, []⟩⟩ :=
    .cons (.operation _ _ _) (.cons (.openCall _ _ _) (.nil _))
  obtain ⟨bounded, blamed⟩ := ofTokens_blames_left_open tokens
  obtain ⟨single, _⟩ := bounded _ _ (List.take_prefix 2 tokens) reads
  obtain ⟨error, failed, message⟩ : ∃ error, ofTokens tokens = .error error
      ∧ error.message = "expected field name or '\x7d' (unclosed '\x7b' opened at 1:5)" :=
    ⟨_, rfl, by decide⟩
  exact ⟨⟨_, reads, rfl, rfl, single⟩, error, failed, message, rfl, blamed error failed⟩

end Batch

end Inquiry
