import Inquiry.Proofs.Token.Characters

set_option autoImplicit false

namespace Inquiry

namespace Token

inductive Cooks : List Char → List Char → Prop
  | nil : Cooks [] []
  | plain {char : Char} {body value : List Char} (notQuote : char ≠ '"')
      (notBackslash : char ≠ '\\') (rest : Cooks body value) :
      Cooks (char :: body) (char :: value)
  | pair (second : Char) {body value : List Char} (rest : Cooks body value) :
      Cooks ('\\' :: second :: body) (pairValue second ++ value)

theorem cooks_of_splitLiteral {source body after : List Char}
    (split : splitLiteral source = some (body, after)) : Cooks body (unescape body) := by
  induction source using splitLiteral.induct generalizing body after with
  | case1 => cases split
  | case2 rest =>
    cases split
    exact .nil
  | case3 second rest ih =>
    obtain ⟨⟨inner, _⟩, found, same⟩ := Option.map_eq_some_iff.mp split
    cases same
    rw [unescape_pair]
    exact .pair second (ih found)
  | case4 char rest notQuote notPair ih =>
    by_cases notBackslash : char = '\\'
    case pos =>
      subst notBackslash
      cases rest with
      | nil => cases split
      | cons second others => exact absurd rfl (notPair second others rfl)
    case neg =>
      rw [splitLiteral_cons_of_ne rest notQuote notBackslash] at split
      obtain ⟨⟨inner, _⟩, found, same⟩ := Option.map_eq_some_iff.mp split
      cases same
      rw [unescape_cons_of_ne _ notBackslash]
      exact .plain notQuote notBackslash (ih found)

namespace Cooks

variable {body value : List Char}

theorem splitLiteral_eq (cooks : Cooks body value) (after : List Char) :
    splitLiteral (body ++ '"' :: after) = some (body, after) := by
  induction cooks with
  | nil => rfl
  | plain notQuote notBackslash _ ih =>
    rw [List.cons_append, splitLiteral_cons_of_ne _ notQuote notBackslash, ih]
    rfl
  | pair second _ ih =>
    rw [List.cons_append, List.cons_append, splitLiteral, ih]
    rfl

theorem unescape_eq (cooks : Cooks body value) : unescape body = value := by
  induction cooks with
  | nil => rfl
  | plain _ notBackslash _ ih => rw [unescape_cons_of_ne _ notBackslash, ih]
  | pair second _ ih => rw [unescape_pair, ih]

theorem lexeme_eq (cooks : Cooks body value) (after : List Char) :
    lexeme '"' (body ++ '"' :: after) =
      ⟨.literal (String.ofList value), '"' :: body ++ ['"'], after⟩ := by
  simp [lexeme, literalLexeme, cooks.splitLiteral_eq, cooks.unescape_eq]

end Cooks

theorem cooks_escape (text : List Char) : Cooks (escape text) text := by
  have cooks := cooks_of_splitLiteral (splitLiteral_escape text [])
  rwa [unescape_escape] at cooks

theorem lexeme_unterminated {rest : List Char}
    (endless : ∀ body value after, Cooks body value → rest ≠ body ++ '"' :: after) :
    lexeme '"' rest = ⟨.malformed "unterminated string literal" (String.ofList ('"' :: rest)),
      '"' :: rest, []⟩ := by
  cases split : splitLiteral rest with
  | none => simp [lexeme, literalLexeme, split]
  | some pair =>
    obtain ⟨body, after⟩ := pair
    have whole := splitLiteral_append split
    exact absurd whole.symm (endless _ _ after (cooks_of_splitLiteral split))

end Token

namespace Lexer

open Token

/-- A literal runs to the first quote that is in no pair behind a backslash. Without one all the
rest is one malformed token. -/
theorem next_literal {lexer : Lexer} {before rest : List Char}
    (between : lexer.Between before ('"' :: rest)) :
    (∀ body value after, Cooks body value → rest = body ++ '"' :: after →
      ∃ later, lexer.Takes before ('"' :: body ++ ['"']) after
        (.literal (String.ofList value)) later)
    ∧ ((∀ body value after, Cooks body value → rest ≠ body ++ '"' :: after) →
      ∃ later last, lexer.Takes before ('"' :: rest) []
          (.malformed "unterminated string literal" (String.ofList ('"' :: rest))) later
        ∧ later.next = some (some ⟨.endOfInput,
          .emptyAt (Position.origin.after (before ++ '"' :: rest))⟩, last))
    ∧ ∀ (text : String) after, rest = escape text.toList ++ '"' :: after →
      ∃ later, lexer.Takes before ('"' :: escape text.toList ++ ['"']) after
        (.literal text) later := by
  have here : lexer.Between before ([] ++ '"' :: rest) := between
  have read := here.next_lexeme (by simp) rfl
  rw [List.append_nil] at read
  have cooked : ∀ body value after, Cooks body value → rest = body ++ '"' :: after →
      ∃ later, lexer.Takes before ('"' :: body ++ ['"']) after
        (.literal (String.ofList value)) later := by
    rintro body value after cooks rfl
    rwa [cooks.lexeme_eq] at read
  refine ⟨cooked, fun endless => ?_, fun text after written => ?_⟩
  · rw [lexeme_unterminated endless] at read
    obtain ⟨later, taken, standing⟩ := read
    obtain ⟨last, -, ending⟩ := standing.next_end (by simp)
    rw [List.append_nil] at ending
    exact ⟨later, last, ⟨taken, standing⟩, ending⟩
  · have same := cooked _ _ after (cooks_escape text.toList) written
    rwa [String.ofList_toList] at same

theorem next_literal_samples :
    (∃ later, (ofSource "\"a\\n\\\u00e9\"x").Takes []
      ['"', 'a', '\\', 'n', '\\', '\u00e9', '"'] ['x'] (.literal "a\n\\\u00e9") later)
    ∧ (∃ later last, (ofSource "\"a\\").Takes [] ['"', 'a', '\\'] []
        (.malformed "unterminated string literal" "\"a\\") later
      ∧ later.next = some (some ⟨.endOfInput, .emptyAt ⟨0, 3, 3⟩⟩, last))
    ∧ ∃ later, (ofSource "\"\\\"\\\\\"\"").Takes [] ['"', '\\', '"', '\\', '\\', '"'] ['"']
      (.literal "\"\\") later := by
  have paired : "\"a\\n\\\u00e9\"x".toList = '"' :: ['a', '\\', 'n', '\\', '\u00e9', '"', 'x'] := by
    decide +kernel
  have unclosed : "\"a\\".toList = '"' :: ['a', '\\'] := by decide +kernel
  have written : "\"\\\"\\\\\"\"".toList = '"' :: ['\\', '"', '\\', '\\', '"', '"'] := by
    decide +kernel
  obtain ⟨cooked, -, -⟩ := next_literal (between_ofSource paired)
  obtain ⟨-, endless, -⟩ := next_literal (between_ofSource unclosed)
  obtain ⟨-, -, escaped⟩ := next_literal (between_ofSource written)
  refine ⟨?_, ?_, escaped "\"\\" ['"'] (by decide +kernel)⟩
  · have value : String.ofList ['a', '\n', '\\', '\u00e9'] = "a\n\\\u00e9" := by decide +kernel
    rw [← value]
    exact cooked ['a', '\\', 'n', '\\', '\u00e9'] _ ['x']
      (.plain (by decide) (by decide) (.pair 'n' (.pair '\u00e9' .nil))) rfl
  · have got : String.ofList ['"', 'a', '\\'] = "\"a\\" := by decide +kernel
    rw [← got]
    refine endless fun body value after _ same => ?_
    have quoted : '"' ∈ ['a', '\\'] := by simp [same]
    simp at quoted

end Lexer

end Inquiry
