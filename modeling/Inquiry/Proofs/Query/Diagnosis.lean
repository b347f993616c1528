import Inquiry.Proofs.Query.Refusal
import Inquiry.Proofs.Source.Lines
import Inquiry.Proofs.Token.Coverage

set_option autoImplicit false

namespace Inquiry

theorem Token.scan_eq_beforeEnd_append (source : String) :
    scan source = beforeEnd (scan source)
      ++ [⟨.endOfInput, .emptyAt (Position.origin.after source.toList)⟩] := by
  obtain ⟨front, whole, solid⟩ := (tiles_scan source).exists_front
  have inner : beforeEnd (scan source) = front := by
    rw [whole, beforeEnd, List.takeWhile_append_of_pos]
    · simp [TokenKind.isEnd]
    · intro token member
      simpa [← TokenKind.isEnd_iff] using solid token member
  rw [inner, whole, List.nil_append]

theorem Token.closed_scan (source : String) : closed (scan source) = scan source := by
  have inner : ∀ token ∈ beforeEnd (scan source), token.kind.isEnd = false := fun token member => by
    simpa using List.mem_takeWhile_imp member
  rw [scan_eq_beforeEnd_append, closed, closeAfter_append_of_isEnd _ [] inner rfl]

namespace Batch

theorem exists_refusal_of_parse {source : String} {error : ParseError}
    (failed : parse source = .error error) :
    ∃ before refused reading, Reading.start.Reads before reading ∧ reading.Reports refused error
      ∧ (refused ∈ Token.beforeEnd (Token.scan source)
        ∨ before = Token.beforeEnd (Token.scan source)
          ∧ refused = ⟨.endOfInput, .emptyAt (Position.origin.after source.toList)⟩) := by
  obtain ⟨before, refused, rest, reading, split, reads, reports, _⟩ := exists_refusal failed
  refine ⟨before, refused, reading, reads, reports, ?_⟩
  rw [Token.closed_scan, Token.scan_eq_beforeEnd_append] at split
  rcases rest.eq_nil_or_concat with rfl | ⟨more, last, rfl⟩
  · obtain ⟨same, final⟩ := List.append_inj' split rfl
    exact .inr ⟨same.symm, (List.cons.inj final).1.symm⟩
  · rw [List.concat_eq_append, ← List.cons_append, ← List.append_assoc] at split
    exact .inl (by simp [(List.append_inj' split rfl).1])

theorem encloses_of_parse {source : String} {error : ParseError}
    (failed : parse source = .error error) : ∃ text, error.span.Encloses source text := by
  obtain ⟨before, refused, reading, _, reports, place⟩ := exists_refusal_of_parse failed
  rw [reports.span_eq]
  rcases place with member | ⟨_, rfl⟩
  · obtain ⟨text, _, encloses, _⟩ := Token.exists_text_of_mem member
    exact ⟨text, encloses⟩
  · exact ⟨[], source.toList, [], by simp, by simp [Span.emptyAt]⟩

end Batch

theorem Span.Encloses.exists_isLine {span : Span} {source : String} {text : List Char}
    (encloses : span.Encloses source text) :
    ∃ before line after, IsLine source.toList before line after
      ∧ before.count '\n' = span.start.line ∧ span.start.column ≤ line.length
      ∧ (span.stop.line = span.start.line → span.stop.column ≤ line.length) := by
  obtain ⟨before, after, split, rfl⟩ := encloses
  have column : ∀ text, (Position.origin.after text).column = (Position.lastLine text).length :=
    fun text => by rw [Position.origin_after]
  have line : ∀ text, (Position.origin.after text).line = text.count '\n' :=
    fun text => by rw [Position.origin_after]
  refine ⟨_, _, _, isLine_around (split.trans (List.append_assoc before text after)), ?_, ?_, ?_⟩
  · rw [line, count_closedLines]
  · rw [column, List.length_append]
    omega
  · intro sameLine
    have unbroken : '\n' ∉ text := by
      rw [line, line, List.count_append] at sameLine
      exact List.count_eq_zero.mp (by omega)
    rw [column, Position.lastLine_append unbroken, List.takeWhile_append_of_pos (by grind)]
    simp only [List.length_append]
    omega

namespace ParseError

/-- The text shows a line behind its number and, on the next line from below the first character of
it on, so many blanks and then so many carets. -/
def Shows (text : String) (number : Nat) (line : List Char) (column carets : Nat) : Prop :=
  ∃ (above rest : String) (indent : Nat), text = above
    ++ (blanks indent ++ toString number ++ " | " ++ String.ofList line ++ "\n")
    ++ (blanks (indent + (toString number).length) ++ " | " ++ blanks column
      ++ String.ofList (List.replicate carets '^') ++ "\n") ++ rest

theorem shows_of_underline? {number column carets : Nat} {line : List Char} {text : String}
    (shown : underline? number line column carets = some text) (above rest : String) :
    Shows (above ++ text ++ rest) number line column carets := by
  unfold underline? at shown
  dsimp only at shown
  split at shown
  next =>
    have aligned : max 2 (toString number).length - (toString number).length
        + (toString number).length = max 2 (toString number).length := by omega
    refine ⟨above ++ (blanks (max 2 (toString number).length) ++ " |\n"), rest,
      max 2 (toString number).length - (toString number).length, ?_⟩
    rw [← Option.some.inj shown, aligned]
    simp [String.append_assoc, ToString.toString]
  next => cases shown

theorem underline?_eq_none_iff {number column carets : Nat} {line : List Char} :
    underline? number line column carets = none ↔ widestMargin < column := by
  simp [underline?]

variable {error : ParseError} {source : String} {line : List Char}

theorem detailed?_eq_map
    (found : (LineIndex.ofSource source).lineText? error.position.line = some line) :
    error.detailed? (some source) =
      (underline? error.position.displayLine line error.position.column
        (caretCount error.span)).map fun snippet =>
          error.heading ++ snippet ++ error.expectation := by
  simp only [detailed?, snippet?, found]
  cases underline? error.position.displayLine line error.position.column (caretCount error.span) <;>
    rfl

theorem detailed?_eq_none_iff
    (found : (LineIndex.ofSource source).lineText? error.position.line = some line) :
    error.detailed? (some source) = none ↔ widestMargin < error.position.column := by
  rw [detailed?_eq_map found, Option.map_eq_none_iff, underline?_eq_none_iff]

theorem shows_of_detailed?
    (found : (LineIndex.ofSource source).lineText? error.position.line = some line) {text : String}
    (shown : error.detailed? (some source) = some text) :
    Shows text error.position.displayLine line error.position.column (caretCount error.span) := by
  rw [detailed?_eq_map found] at shown
  obtain ⟨snippet, underlined, rfl⟩ := Option.map_eq_some_iff.mp shown
  exact shows_of_underline? underlined error.heading error.expectation

theorem one_le_caretCount (span : Span) : 1 ≤ caretCount span := Nat.le_max_left _ _

-- Only carets below one character beyond the line can be more than the line has characters.
theorem caretCount_le {span : Span} {length : Nat} (start : span.start.column ≤ length)
    (stop : span.stop.line = span.start.line → span.stop.column ≤ length) :
    span.start.column + caretCount span ≤ length + 1 := by
  unfold caretCount
  dsimp only
  split
  next same =>
    have := stop same
    omega
  next => omega

end ParseError

namespace Batch

theorem got_of_parse {source : String} {error : ParseError} (failed : parse source = .error error) :
    (error.span = .emptyAt (Position.origin.after source.toList) ∧ error.got = "end of input"
        ∧ ∃ reading, Reading.start.Reads (Token.beforeEnd (Token.scan source)) reading)
      ∨ ∃ token ∈ Token.beforeEnd (Token.scan source), error.span = token.span
        ∧ token.span.start.offset < token.span.stop.offset
        ∧ ((∃ value, token.kind = .literal value ∧ error.got = value)
          ∨ (∀ value, token.kind ≠ .literal value)
            ∧ token.span.textIn source = some error.got.toList) := by
  obtain ⟨before, refused, reading, reads, reports, place⟩ := exists_refusal_of_parse failed
  rw [reports.span_eq, reports.got_eq]
  rcases place with member | ⟨rfl, rfl⟩
  case inl =>
    refine .inr ⟨refused, member, rfl, Token.offset_lt_of_mem member, ?_⟩
    by_cases literal : ∃ value, refused.kind = .literal value
    · obtain ⟨value, same⟩ := literal
      exact .inl ⟨value, same, by rw [same]; rfl⟩
    · have bare := not_exists.mp literal
      exact .inr ⟨bare, (Token.encloses_of_mem member bare).textIn_eq⟩
  case inr => exact .inl ⟨rfl, rfl, reading, reads⟩

theorem shown_of_parse {source : String} {error : ParseError}
    (failed : parse source = .error error) :
    ∃ line, (LineIndex.ofSource source).lineText? error.position.line = some line
      ∧ ('\r' ∉ source.toList →
        error.position.column + ParseError.caretCount error.span ≤ line.length + 1) := by
  obtain ⟨text, encloses⟩ := encloses_of_parse failed
  obtain ⟨before, line, after, isLine, number, start, stop⟩ := encloses.exists_isLine
  refine ⟨LineIndex.withoutReturn line, ?_, fun plain => ?_⟩
  · rw [ParseError.position, ← number, isLine.lineText?_eq]
  · have plainLine : '\r' ∉ line := fun member => plain (by simp [isLine.split, member])
    rw [LineIndex.withoutReturn_of_not_mem plainLine]
    exact ParseError.caretCount_le start stop

/-- A parse error is over one token or at the end of the source, and is shown with the line where it
begins. Nothing is shown if it begins beyond the widest margin. -/
theorem parse_error_points_into_source {source : String} {error : ParseError}
    (failed : parse source = .error error) :
    error.span.LiesIn source
    ∧ ((error.span = .emptyAt ((LineIndex.ofSource source).positionAt source.utf8ByteSize)
          ∧ error.got = "end of input"
          ∧ ∃ reading, Reading.start.Reads (Token.beforeEnd (Token.scan source)) reading)
        ∨ ∃ token ∈ Token.beforeEnd (Token.scan source), error.span = token.span
          ∧ token.span.start.offset < token.span.stop.offset
          ∧ ((∃ value, token.kind = .literal value ∧ error.got = value)
            ∨ (∀ value, token.kind ≠ .literal value)
              ∧ token.span.textIn source = some error.got.toList))
    ∧ (error.detailed? (some source) = none ↔ 65535 < error.position.column)
    ∧ ∃ line, (LineIndex.ofSource source).lineText? error.position.line = some line
      ∧ ∀ text, error.detailed? (some source) = some text →
        ∃ carets, ParseError.Shows text error.position.displayLine line error.position.column carets
          ∧ 1 ≤ carets
          ∧ ('\r' ∉ source.toList → error.position.column + carets ≤ line.length + 1) := by
  obtain ⟨_, encloses⟩ := encloses_of_parse failed
  obtain ⟨line, found, bounded⟩ := shown_of_parse failed
  have last : (LineIndex.ofSource source).positionAt source.utf8ByteSize =
      Position.origin.after source.toList := by
    rw [← byteLength_toList]
    exact LineIndex.positionAt_byteLength (List.append_nil source.toList).symm
  rw [last]
  refine ⟨encloses.liesIn, got_of_parse failed, ParseError.detailed?_eq_none_iff found, line, found,
    fun text shown => ?_⟩
  exact ⟨_, ParseError.shows_of_detailed? found shown, ParseError.one_le_caretCount error.span,
    bounded⟩

theorem parse_error_of_view {α : Type} (view : ParseError → α) {source : String} {seen : α}
    (read : (match ofTokens (Token.scanFrom .origin source.toList) with
      | .error error => some (view error)
      | .ok _ => none) = some seen) :
    ∃ error, parse source = .error error ∧ view error = seen := by
  rw [parse, Token.scan_eq_scanFrom]
  cases parsed : ofTokens (Token.scanFrom .origin source.toList) with
  | ok batch =>
    rw [parsed] at read
    cases read
  | error error =>
    rw [parsed] at read
    exact ⟨error, rfl, Option.some.inj read⟩

theorem parse_error_points_into_source_word :
    let source := "get(\"é\");\nlist(status done)"
    ∃ error text carets, parse source = .error error ∧ error.got = "done"
      ∧ error.detailed? (some source) = some text ∧ text = "error: expected ',' or ')'\n"
        ++ "  --> <query>:2:13\n   |\n 2 | list(status done)\n   |             ^^^^\n"
        ++ "   = expected: ',' or ')'\n"
      ∧ error.span.LiesIn source
      ∧ ParseError.Shows text 2 "list(status done)".toList 12 carets ∧ 1 ≤ carets
      ∧ 12 + carets ≤ 18 := by
  intro source
  let view := fun (error : ParseError) =>
    (error.got, error.position, error.detailed? (some source))
  obtain ⟨error, failed, seen⟩ : ∃ error, parse source = .error error ∧ view error =
      ("done", ⟨1, 12, 23⟩, some ("error: expected ',' or ')'\n"
        ++ "  --> <query>:2:13\n   |\n 2 | list(status done)\n   |             ^^^^\n"
        ++ "   = expected: ',' or ')'\n")) := parse_error_of_view view (by decide +kernel)
  obtain ⟨got, place, shown⟩ : _ ∧ _ ∧ _ := by simpa only [view, Prod.mk.injEq] using seen
  obtain ⟨lies, _, _, line, found, underlined⟩ := parse_error_points_into_source failed
  obtain ⟨carets, shows, positive, bounded⟩ := underlined _ shown
  have plain : '\r' ∉ source.toList := by decide +kernel
  rw [place] at found shows bounded
  have second : (LineIndex.ofSource source).lineText? 1 = some "list(status done)".toList := by
    decide +kernel
  obtain rfl : line = "list(status done)".toList := Option.some.inj (found.symm.trans second)
  exact ⟨error, _, carets, failed, got, shown, rfl, lies, shows, positive, bounded plain⟩

theorem parse_blanks (count : Nat) :
    parse (ParseError.blanks count) = .error (Reading.emptyBatch (.emptyAt ⟨0, count, count⟩)) := by
  have blank : ∀ char ∈ List.replicate count ' ', Token.isBlank char = true := by
    intro char member
    rw [List.eq_of_mem_replicate member]
    rfl
  rw [parse, Token.scan_eq_scanFrom, ParseError.blanks, String.toList_ofList,
    Token.scanFrom_blanks _ blank, Position.after_replicate_blank]
  simp [ofTokens, Reading.resume, Reading.finish, Reading.start, Reading.batchOf, Position.origin]

theorem detailed?_fails_beyond_margin :
    ∃ error, parse (ParseError.blanks 65536) = .error error
      ∧ error.detailed? (some (ParseError.blanks 65536)) = none := by
  obtain ⟨line, found, _⟩ := shown_of_parse (parse_blanks 65536)
  exact ⟨_, parse_blanks 65536, (ParseError.detailed?_eq_none_iff found).mpr (by decide)⟩

end Batch

end Inquiry
