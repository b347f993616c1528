import Inquiry.Proofs.Query.Recognition
import Inquiry.Proofs.Query.Relocation
import Inquiry.Proofs.Source.Position

set_option autoImplicit false

namespace Inquiry

open Token

theorem Token.scanFrom_behind (text : List Char) (position : Position) (source : List Char) :
    scanFrom (position.behind text) source =
      (scanFrom position source).map (Token.relocate (Position.behind text)) := by
  induction source using source_induction generalizing position with
  | nil => simp [scanFrom_nil, Span.emptyAt, Span.relocate]
  | blank char rest blank ih =>
    rw [scanFrom_blank _ _ blank, scanFrom_blank _ _ blank, ← ih, Position.behind_advance]
  | lexeme char rest solid ih =>
    rw [scanFrom_lexeme _ _ solid, scanFrom_lexeme _ _ solid, List.map_cons, ← ih,
      Position.behind_after]
    simp [Span.relocate, Position.behind_after]

theorem Token.beforeEnd_map_relocate (move : Position → Position) (tokens : List Token) :
    beforeEnd (tokens.map (Token.relocate move)) =
      (beforeEnd tokens).map (Token.relocate move) := by
  simp [beforeEnd, List.takeWhile_map, Function.comp_def, Token.relocate]

theorem Token.beforeEnd_scan_join {first : String} (second : String)
    (wellFormed : ∀ kind ∈ kinds first.toList, kind.isMalformed = false) :
    ∃ span, beforeEnd (scan (first ++ ";" ++ second)) =
      beforeEnd (scan first) ++ ⟨.semicolon, span⟩
        :: (beforeEnd (scan second)).map (Token.relocate (Position.behind first.toList)) := by
  have source : (first ++ ";" ++ second).toList = first.toList ++ ';' :: second.toList := by simp
  have separates : Separates (';' :: second.toList) := separates_cons.mpr rfl
  refine ⟨⟨Position.origin.after first.toList, Position.origin.behind first.toList⟩, ?_⟩
  rw [scan_eq_scanFrom, scan_eq_scanFrom, scan_eq_scanFrom, source,
    beforeEnd_scanFrom_append _ _ wellFormed separates, beforeEnd_scanFrom_lexeme _ _ rfl,
    ← beforeEnd_map_relocate, ← scanFrom_behind,
    Position.behind_origin]
  rfl

namespace Reading

theorem Ends.reads_semicolon {reading : Reading} {queries : List Query}
    (ends : reading.Ends queries) (span : Span) :
    reading.Reads [⟨.semicolon, span⟩] ⟨queries, .between⟩ := by
  cases ends with
  | between => exact (Moves.skipSemicolon _ span).reads
  | completes prior completes => exact (Moves.endQuery prior completes span).reads

theorem Ends.relocate {reading : Reading} {queries : List Query} (move : Position → Position)
    (ends : reading.Ends queries) :
    (reading.relocate move).Ends (queries.map (Query.relocate move)) := by
  cases ends with
  | between => exact .between _
  | completes prior completes => simpa using Ends.completes _ completes.relocate

theorem Ends.after {reading : Reading} {queries : List Query} (ends : reading.Ends queries)
    (prior : List Query) : (reading.after prior).Ends (prior ++ queries) := by
  cases ends with
  | between => exact .between _
  | completes others completes =>
    simpa [Reading.after] using Ends.completes (prior ++ others) completes

end Reading

namespace Batch

theorem parse_join_spanning {first second : String} {batch more : Batch}
    (firstParsed : parse first = .ok batch) (secondParsed : parse second = .ok more) :
    ∃ nonempty, parse (first ++ ";" ++ second) = .ok (.spanning
      (batch.queries ++ more.queries.map (Query.relocate (Position.behind first.toList)))
      nonempty) := by
  obtain ⟨final, queries, nonempty, reads, ends, rfl⟩ :=
    (Reading.resume_eq_ok_iff _ _ _ _).mp firstParsed
  obtain ⟨finalMore, queriesMore, _, readsMore, endsMore, rfl⟩ :=
    (Reading.resume_eq_ok_iff _ _ _ _).mp secondParsed
  obtain ⟨span, tokens⟩ := Token.beforeEnd_scan_join second (not_malformed_of_parse firstParsed)
  have opened := reads.trans (ends.reads_semicolon span)
  -- The second source begins where no query has begun, as a source of its own does.
  have later := (readsMore.relocate (Position.behind first.toList)).after queries
  have startAfter : (Reading.start.relocate (Position.behind first.toList)).after queries =
      ⟨queries, .between⟩ := by simp [Reading.start, Reading.after]
  rw [startAfter] at later
  have wholeReads := opened.trans later
  rw [List.append_assoc, List.singleton_append, ← tokens] at wholeReads
  have wholeEnds := (endsMore.relocate (Position.behind first.toList)).after queries
  have wholeNonempty := List.append_ne_nil_of_left_ne_nil nonempty
    (queriesMore.map (Query.relocate (Position.behind first.toList)))
  exact ⟨wholeNonempty, (Reading.resume_eq_ok_iff _ _ _ _).mpr
    ⟨_, _, wholeNonempty, wholeReads, wholeEnds, rfl⟩⟩

theorem parse_join {first second : String} {batch more : Batch}
    (firstParsed : parse first = .ok batch) (secondParsed : parse second = .ok more) :
    ∃ whole, parse (first ++ ";" ++ second) = .ok whole
      ∧ whole.calls = batch.calls ++ more.calls := by
  obtain ⟨nonempty, parsed⟩ := parse_join_spanning firstParsed secondParsed
  refine ⟨_, parsed, ?_⟩
  simp [calls, spanning, Query.call_relocate, Function.comp_def]

theorem parse_join_places {first second : String} {batch more : Batch}
    (firstParsed : parse first = .ok batch) (secondParsed : parse second = .ok more) :
    ∃ whole, parse (first ++ ";" ++ second) = .ok whole
      ∧ whole.queries =
        batch.queries ++ more.queries.map (Query.relocate (Position.behind first.toList))
      ∧ ∃ head last, whole.queries.head? = some head ∧ whole.queries.getLast? = some last
        ∧ whole.span = ⟨head.span.start, last.span.stop⟩ := by
  obtain ⟨nonempty, parsed⟩ := parse_join_spanning firstParsed secondParsed
  exact ⟨_, parsed, rfl, _, _, List.head?_eq_some_head nonempty,
    List.getLast?_eq_some_getLast nonempty, rfl⟩

theorem parse_join_places_lines :
    let first := "note(\"é\n\");"
    let second := "x()\n;y(k=\"z\")"
    ∃ batch more, parse first = .ok batch ∧ parse second = .ok more
      ∧ batch.queries.map Query.span = [⟨⟨0, 0, 0⟩, ⟨1, 2, 11⟩⟩]
      ∧ (more.queries.map (Query.relocate (Position.behind first.toList))).map Query.span =
        [⟨⟨1, 4, 13⟩, ⟨1, 7, 16⟩⟩, ⟨⟨2, 1, 18⟩, ⟨2, 9, 26⟩⟩]
      ∧ ∃ whole, parse (first ++ ";" ++ second) = .ok whole
        ∧ whole.queries =
          batch.queries ++ more.queries.map (Query.relocate (Position.behind first.toList))
        ∧ ∃ head last, whole.queries.head? = some head ∧ whole.queries.getLast? = some last
          ∧ whole.span = ⟨head.span.start, last.span.stop⟩ := by
  intro first second
  let spans := fun (batch : Batch) => batch.queries.map Query.span
  obtain ⟨batch, firstParsed, firstSpans⟩ : ∃ batch, parse first = .ok batch
      ∧ spans batch = [⟨⟨0, 0, 0⟩, ⟨1, 2, 11⟩⟩] := parse_of_view spans (by decide +kernel)
  obtain ⟨more, secondParsed, secondSpans⟩ : ∃ more, parse second = .ok more
      ∧ spans more = [⟨⟨0, 0, 0⟩, ⟨0, 3, 3⟩⟩, ⟨⟨1, 1, 5⟩, ⟨1, 9, 13⟩⟩] :=
    parse_of_view spans (by decide +kernel)
  have moved : (more.queries.map (Query.relocate (Position.behind first.toList))).map Query.span =
      (spans more).map (Span.relocate (Position.behind first.toList)) := by
    simp [spans, Query.relocate, Function.comp_def]
  refine ⟨batch, more, firstParsed, secondParsed, firstSpans, ?_,
    parse_join_places firstParsed secondParsed⟩
  rw [moved, secondSpans]
  decide +kernel

end Batch

end Inquiry
