import Inquiry.Proofs.Query.Recognition
import Inquiry.Proofs.Token.Coverage

set_option autoImplicit false

namespace Inquiry

open Token

def TokenKind.isIdentifier : TokenKind → Bool
  | identifier _ => true
  | _ => false

theorem Token.isBlank_not_continues {char : Char} (blank : isBlank char = true) :
    continuesIdentifier char = false := by
  rcases isBlank_cases blank with rfl | rfl | rfl | rfl <;> rfl

namespace TokenKind.WrittenAs

variable {kind : TokenKind} {text after : List Char}

theorem kinds_eq (written : kind.WrittenAs text after) (wellFormed : kind.isMalformed = false) :
    kinds (text ++ after) = kind :: kinds after := by
  cases kind with
  | identifier name =>
    obtain ⟨rfl, isName, separates⟩ := written
    exact kinds_identifier isName separates
  | literal value =>
    obtain ⟨body, rfl, cooks⟩ := written
    rw [List.append_assoc, List.singleton_append, List.cons_append, kinds_lexeme _ rfl,
      cooks.lexeme_eq, String.ofList_toList]
  | endOfInput => exact written.elim
  | malformed => cases wellFormed
  | _ =>
    cases written
    rw [TokenKind.sourceText]
    exact kinds_lexeme after rfl

theorem of_separates {other : List Char} (written : kind.WrittenAs text after)
    (separates : kind.isIdentifier = true → Separates other) : kind.WrittenAs text other := by
  cases kind with
  | identifier name => exact ⟨written.1, written.2.1, separates rfl⟩
  | _ => exact written

theorem separates (written : kind.WrittenAs text after) (wellFormed : kind.isMalformed = false)
    (other : kind.isIdentifier = false) (more : List Char) : Separates (text ++ more) := by
  cases kind with
  | identifier name => cases other
  | literal value =>
    obtain ⟨body, rfl, -⟩ := written
    exact separates_cons.mpr rfl
  | endOfInput => exact written.elim
  | malformed => cases wellFormed
  | _ =>
    cases written
    exact separates_cons.mpr rfl

end TokenKind.WrittenAs

namespace Token

theorem exists_writtenAs_of_mem {source : String} {token : Token}
    (member : token ∈ beforeEnd (scan source)) :
    ∃ text after, token.span.textIn source = some text ∧ token.kind.WrittenAs text after := by
  have scanned : token ∈ scan source := (List.takeWhile_sublist _).subset member
  have solid : token.kind ≠ .endOfInput := by
    intro last
    have inner := List.mem_takeWhile_imp member
    rw [last] at inner
    cases inner
  obtain ⟨before, text, after, split, -, span, written⟩ :=
    (tiles_scan source).standsIn rfl token scanned solid
  exact ⟨text, after, Span.Encloses.textIn_eq ⟨before, after, split, span⟩, written⟩

theorem map_kind_scan (source : String) :
    (scan source).map kind = kinds source.toList ++ [.endOfInput] := by
  have anywhere : ∀ position text,
      (scanFrom position text).map kind = kinds text ++ [.endOfInput] := by
    intro position text
    induction text using source_induction generalizing position with
    | nil => simp [scanFrom_nil]
    | blank char rest blank ih => rw [scanFrom_blank _ _ blank, kinds_blank _ blank, ih]
    | lexeme char rest solid ih =>
      rw [scanFrom_lexeme _ _ solid, kinds_lexeme _ solid, List.map_cons, ih, List.cons_append]
  rw [scan_eq_scanFrom, anywhere]

theorem kinds_gap {gap : List Char} (blank : ∀ char ∈ gap, isBlank char = true)
    (rest : List Char) : kinds (gap ++ rest) = kinds rest := by
  rw [kinds, scanFrom_gap _ _ blank, kindsBeforeEnd_scanFrom]

def respaced (source : String) (spaced : List (Token × List Char)) : List Char :=
  spaced.flatMap fun (token, gap) => (token.span.textIn source).getD [] ++ gap

def Apart (spaced : List (Token × List Char)) : Prop :=
  spaced.IsChain fun first second =>
    first.1.kind.isIdentifier = true → second.1.kind.isIdentifier = true → first.2 ≠ []

theorem separates_gap {gap rest : List Char} (blank : ∀ char ∈ gap, isBlank char = true)
    (separates : gap = [] → Separates rest) : Separates (gap ++ rest) := by
  cases gap with
  | nil => exact separates rfl
  | cons char gap => exact separates_cons.mpr (isBlank_not_continues (blank char (by simp)))

theorem kinds_respaced {source : String} {spaced : List (Token × List Char)}
    (inside : ∀ pair ∈ spaced, pair.1 ∈ beforeEnd (scan source))
    (wellFormed : ∀ pair ∈ spaced, pair.1.kind.isMalformed = false)
    (blank : ∀ pair ∈ spaced, ∀ char ∈ pair.2, isBlank char = true) (apart : Apart spaced) :
    kinds (respaced source spaced) = spaced.map fun pair => pair.1.kind := by
  induction spaced with
  | nil => exact kinds_nil
  | cons pair rest ih =>
    obtain ⟨token, gap⟩ := pair
    obtain ⟨here, later⟩ := List.forall_mem_cons.mp inside
    obtain ⟨sound, laterSound⟩ := List.forall_mem_cons.mp wellFormed
    obtain ⟨blankHere, blankLater⟩ := List.forall_mem_cons.mp blank
    obtain ⟨text, after, held, written⟩ := exists_writtenAs_of_mem here
    have separates : token.kind.isIdentifier = true → Separates (gap ++ respaced source rest) := by
      intro identifier
      refine separates_gap blankHere fun touching => ?_
      cases rest with
      | nil => exact separates_nil
      | cons next others =>
        obtain ⟨next, nextGap⟩ := next
        have other : next.kind.isIdentifier = false := by
          have loose := (List.isChain_cons_cons.mp apart).1 identifier
          exact Bool.eq_false_iff.mpr fun same => loose same touching
        obtain ⟨nextText, nextAfter, nextHeld, nextWritten⟩ :=
          exists_writtenAs_of_mem (later _ (List.mem_cons_self ..))
        have starts := nextWritten.separates (laterSound _ (List.mem_cons_self ..)) other
        simpa [respaced, nextHeld] using starts (nextGap ++ respaced source others)
    have whole : respaced source ((token, gap) :: rest) =
        text ++ (gap ++ respaced source rest) := by
      simp [respaced, held]
    rw [whole, (written.of_separates separates).kinds_eq sound, kinds_gap blankHere,
      ih later laterSound blankLater apart.of_cons, List.map_cons]

/-- Blanks can be set anew as long as identifiers stay apart: either both texts can be parsed or
neither, and the calls are the same. -/
theorem respaced_alike {source text : String} {lead : List Char}
    {spaced : List (Token × List Char)}
    (wellFormed : ∀ token ∈ scan source, token.kind.isMalformed = false)
    (tokens : spaced.map Prod.fst = beforeEnd (scan source))
    (blankLead : ∀ char ∈ lead, isBlank char = true)
    (blank : ∀ pair ∈ spaced, ∀ char ∈ pair.2, isBlank char = true) (apart : Apart spaced)
    (written : text.toList = lead ++ respaced source spaced) :
    (scan text).map kind = (scan source).map kind
      ∧ ∀ calls, (∃ batch, Batch.parse text = .ok batch ∧ batch.calls = calls) ↔
        ∃ batch, Batch.parse source = .ok batch ∧ batch.calls = calls := by
  have inside : ∀ pair ∈ spaced, pair.1 ∈ beforeEnd (scan source) := fun pair member =>
    tokens ▸ List.mem_map_of_mem member
  have sound : ∀ pair ∈ spaced, pair.1.kind.isMalformed = false := fun pair member =>
    wellFormed _ ((List.takeWhile_sublist _).subset (inside pair member))
  have same : kinds text.toList = kinds source.toList := by
    calc kinds text.toList
      _ = kinds (respaced source spaced) := by rw [written, kinds_gap blankLead]
      _ = (spaced.map Prod.fst).map kind := by
        rw [kinds_respaced inside sound blank apart, List.map_map]
        rfl
      _ = kinds source.toList := by
        rw [tokens, scan_eq_scanFrom]
        rfl
  refine ⟨by rw [map_kind_scan, map_kind_scan, same], fun calls => ?_⟩
  rw [Batch.parse_iff_batchOf, Batch.parse_iff_batchOf, same]

theorem respaced_alike_fields :
    let source := "f(\"x y\") \x7b a   b \x7d"
    let gaps : List (List Char) := [[], ['\t'], [' ', ' '], [], ['\n'], ['\r'], [], []]
    let text := " f(\t\"x y\"  )\x7b\na\rb\x7d"
    let spaced := (beforeEnd (scan source)).zip gaps
    text.toList = ' ' :: respaced source spaced ∧ Apart spaced
    ∧ (scan text).map kind = (scan source).map kind
    ∧ ∃ batch, Batch.parse text = .ok batch
      ∧ batch.calls = [⟨"f", [⟨none, .literal "x y"⟩], some ["a", "b"]⟩] := by
  have parsed : ∃ batch, Batch.parse "f(\"x y\") \x7b a   b \x7d" = .ok batch ∧ batch.calls =
      [⟨"f", [⟨none, .literal "x y"⟩], some ["a", "b"]⟩] :=
    Batch.parse_of_calls (by decide +kernel)
  intro source gaps text spaced
  have wellFormed : ∀ token ∈ scan source, token.kind.isMalformed = false := by
    rw [scan_eq_scanFrom]
    decide +kernel
  have tokens : spaced.map Prod.fst = beforeEnd (scan source) := by
    simp only [spaced, scan_eq_scanFrom]
    decide +kernel
  have blanks : ∀ gap ∈ gaps, ∀ char ∈ gap, isBlank char = true := by simp [gaps, isBlank]
  have blank : ∀ pair ∈ spaced, ∀ char ∈ pair.2, isBlank char = true := fun pair member =>
    blanks _ (List.of_mem_zip member).2
  have apart : Apart spaced := by
    simp only [Apart, spaced, scan_eq_scanFrom]
    decide +kernel
  have written : text.toList = [' '] ++ respaced source spaced := by
    simp only [spaced, scan_eq_scanFrom]
    decide +kernel
  obtain ⟨sameKinds, sameCalls⟩ :=
    respaced_alike wellFormed tokens (by simp [isBlank]) blank apart written
  exact ⟨written, apart, sameKinds, (sameCalls _).mpr parsed⟩

end Token

end Inquiry
