import Mathlib.Data.List.TakeWhile
import Inquiry.Proofs.Token.Lexeme

set_option autoImplicit false

namespace Inquiry

namespace Token

def beforeEnd (tokens : List Token) : List Token :=
  tokens.takeWhile fun token => !token.kind.isEnd

def kindsBeforeEnd (tokens : List Token) : List TokenKind := (beforeEnd tokens).map kind

theorem lexeme_of_startsIdentifier {char : Char} (rest : List Char)
    (starts : startsIdentifier char = true) : lexeme char rest = identifierLexeme char rest := by
  unfold lexeme
  split <;> first | cases starts | rw [if_pos starts]

theorem lexeme_cases (char : Char) :
    (∃ kind, kind.sourceText = char.toString ∧ (∀ value, kind ≠ .literal value)
      ∧ ∀ rest, lexeme char rest = ⟨kind, [char], rest⟩)
    ∨ (char = '"' ∧ ∀ rest, lexeme char rest = literalLexeme rest)
    ∨ (startsIdentifier char = true ∧ ∀ rest, lexeme char rest = identifierLexeme char rest) := by
  by_cases quote : char = '"'
  · exact .inr (.inl ⟨quote, fun rest => by rw [quote]; rfl⟩)
  cases starts : startsIdentifier char with
  | true => exact .inr (.inr ⟨rfl, fun rest => lexeme_of_startsIdentifier rest starts⟩)
  | false =>
    refine .inl ⟨(lexeme char []).kind, ?_⟩
    unfold lexeme
    split <;> first
      | exact ⟨rfl, by simp, fun _ => rfl⟩
      | exact absurd rfl quote
      | skip
    next =>
      rw [starts]
      refine ⟨rfl, by simp [unexpectedCharacter], fun rest => ?_⟩
      split <;> first | rfl | contradiction

theorem lexeme_isEnd_eq_false (char : Char) (rest : List Char) :
    (lexeme char rest).kind.isEnd = false := by
  unfold lexeme
  split <;> try rfl
  · unfold literalLexeme
    split <;> rfl
  · split <;> rfl

theorem scanFrom_nil (position : Position) :
    scanFrom position [] = [⟨.endOfInput, .emptyAt position⟩] := by
  rw [scanFrom]

theorem scanFrom_blank (position : Position) {char : Char} (rest : List Char)
    (blank : isBlank char = true) :
    scanFrom position (char :: rest) = scanFrom (position.advance char) rest := by
  rw [scanFrom, if_pos blank]

theorem scanFrom_lexeme (position : Position) {char : Char} (rest : List Char)
    (solid : isBlank char = false) :
    scanFrom position (char :: rest) =
      ⟨(lexeme char rest).kind, ⟨position, position.after (lexeme char rest).text⟩⟩
        :: scanFrom (position.after (lexeme char rest).text) (lexeme char rest).rest := by
  rw [scanFrom, if_neg (by simp [solid])]

@[simp] theorem beforeEnd_scanFrom_nil (position : Position) :
    beforeEnd (scanFrom position []) = [] := by
  simp [scanFrom_nil, beforeEnd, TokenKind.isEnd]

theorem beforeEnd_scanFrom_lexeme (position : Position) {char : Char} (rest : List Char)
    (solid : isBlank char = false) :
    beforeEnd (scanFrom position (char :: rest)) =
      ⟨(lexeme char rest).kind, ⟨position, position.after (lexeme char rest).text⟩⟩
        :: beforeEnd (scanFrom (position.after (lexeme char rest).text) (lexeme char rest).rest) := by
  simp [scanFrom_lexeme _ _ solid, beforeEnd, lexeme_isEnd_eq_false]

-- Follows the scanner: past a blank or past a whole lexeme.
@[elab_as_elim]
theorem source_induction {motive : List Char → Prop} (nil : motive [])
    (blank : ∀ char rest, isBlank char = true → motive rest → motive (char :: rest))
    (lexeme : ∀ char rest, isBlank char = false → motive (lexeme char rest).rest →
      motive (char :: rest))
    (source : List Char) : motive source := by
  induction size : source.length using Nat.strongRecOn generalizing source with
  | ind size ih =>
    cases source with
    | nil => exact nil
    | cons char rest =>
      rw [List.length_cons] at size
      cases solid : isBlank char with
      | true => exact blank char rest solid (ih rest.length (by omega) rest rfl)
      | false =>
        have shorter := lexeme_rest_length_le char rest
        exact lexeme char rest solid (ih _ (by omega) (Token.lexeme char rest).rest rfl)

theorem isBlank_cases {char : Char} (blank : isBlank char = true) :
    char = ' ' ∨ char = '\t' ∨ char = '\r' ∨ char = '\n' := by
  simpa [isBlank, or_assoc] using blank

theorem isBlank_of_dropWhile {source rest : List Char} {char : Char}
    (left : source.dropWhile isBlank = char :: rest) : isBlank char = false := by
  have first := List.head?_dropWhile_not isBlank source
  rw [left] at first
  simpa using first

-- Follows the tokens: each takes the blanks in front of it along.
@[elab_as_elim]
theorem gap_induction {motive : List Char → Prop}
    (last : ∀ gap, (∀ char ∈ gap, isBlank char = true) → motive gap)
    (lexeme : ∀ gap char rest, (∀ char ∈ gap, isBlank char = true) → isBlank char = false →
      motive (lexeme char rest).rest → motive (gap ++ char :: rest))
    (source : List Char) : motive source := by
  induction size : source.length using Nat.strongRecOn generalizing source with
  | ind size ih =>
    have blank : ∀ char ∈ source.takeWhile isBlank, isBlank char = true :=
      fun char member => List.mem_takeWhile_imp member
    have whole : source.takeWhile isBlank ++ source.dropWhile isBlank = source :=
      List.takeWhile_append_dropWhile
    rw [← whole]
    cases left : source.dropWhile isBlank with
    | nil =>
      rw [List.append_nil]
      exact last _ blank
    | cons char rest =>
      have shorter := lexeme_rest_length_le char rest
      have lengths := congrArg List.length whole
      rw [left, List.length_append, List.length_cons] at lengths
      exact lexeme _ char rest blank (isBlank_of_dropWhile left) (ih _ (by omega) _ rfl)

theorem scanFrom_gap (position : Position) {gap : List Char} (rest : List Char)
    (blank : ∀ char ∈ gap, isBlank char = true) :
    scanFrom position (gap ++ rest) = scanFrom (position.after gap) rest := by
  induction gap generalizing position with
  | nil => rfl
  | cons char gap ih =>
    obtain ⟨here, later⟩ := List.forall_mem_cons.mp blank
    rw [List.cons_append, scanFrom_blank _ _ here, ih _ later, Position.after_cons]

theorem scanFrom_blanks (position : Position) {gap : List Char}
    (blank : ∀ char ∈ gap, isBlank char = true) :
    scanFrom position gap = [⟨.endOfInput, .emptyAt (position.after gap)⟩] := by
  have scanned := scanFrom_gap position [] blank
  rwa [List.append_nil, scanFrom_nil] at scanned

def kinds (source : List Char) : List TokenKind := kindsBeforeEnd (scanFrom .origin source)

theorem kindsBeforeEnd_scanFrom (position : Position) (source : List Char) :
    kindsBeforeEnd (scanFrom position source) = kinds source := by
  -- For two positions at once, since both of them move as the scan goes on.
  have anywhere : ∀ first second,
      kindsBeforeEnd (scanFrom first source) = kindsBeforeEnd (scanFrom second source) := by
    induction source using source_induction with
    | nil => intro first second; simp [kindsBeforeEnd]
    | blank char rest blank ih =>
      intro first second
      rw [scanFrom_blank _ _ blank, scanFrom_blank _ _ blank]
      exact ih _ _
    | lexeme char rest solid ih =>
      intro first second
      have more := ih (first.after (lexeme char rest).text) (second.after (lexeme char rest).text)
      simp only [kindsBeforeEnd] at more
      simp [kindsBeforeEnd, beforeEnd_scanFrom_lexeme _ _ solid, more]
  exact anywhere _ _

@[simp] theorem kinds_nil : kinds [] = [] := by simp [kinds, kindsBeforeEnd]

theorem kinds_blank {char : Char} (rest : List Char) (blank : isBlank char = true) :
    kinds (char :: rest) = kinds rest := by
  rw [kinds, scanFrom_blank _ _ blank, kindsBeforeEnd_scanFrom]

theorem kinds_lexeme {char : Char} (rest : List Char) (solid : isBlank char = false) :
    kinds (char :: rest) = (lexeme char rest).kind :: kinds (lexeme char rest).rest := by
  have more := kindsBeforeEnd_scanFrom (Position.origin.after (lexeme char rest).text)
    (lexeme char rest).rest
  simp only [kindsBeforeEnd] at more
  simp [kinds, kindsBeforeEnd, beforeEnd_scanFrom_lexeme _ _ solid, more]

def Separates (text : List Char) : Prop := ∀ char ∈ text.head?, continuesIdentifier char = false

theorem separates_nil : Separates [] := by simp [Separates]

theorem separates_cons {char : Char} {rest : List Char} :
    Separates (char :: rest) ↔ continuesIdentifier char = false := by simp [Separates]

theorem Separates.takeWhile_eq_nil {text : List Char} (separates : Separates text) :
    text.takeWhile continuesIdentifier = [] := by
  cases text with
  | nil => rfl
  | cons char rest => simp [separates_cons.mp separates]

theorem Separates.dropWhile_eq_self {text : List Char} (separates : Separates text) :
    text.dropWhile continuesIdentifier = text := by
  cases text with
  | nil => rfl
  | cons char rest => simp [separates_cons.mp separates]

theorem takeWhile_append_of_separates (text : List Char) {more : List Char}
    (separates : Separates more) :
    (text ++ more).takeWhile continuesIdentifier = text.takeWhile continuesIdentifier := by
  induction text with
  | nil => exact separates.takeWhile_eq_nil
  | cons char rest ih =>
    cases continues : continuesIdentifier char <;> simp [continues, ih]

theorem dropWhile_append_of_separates (text : List Char) {more : List Char}
    (separates : Separates more) :
    (text ++ more).dropWhile continuesIdentifier = text.dropWhile continuesIdentifier ++ more := by
  induction text with
  | nil => exact separates.dropWhile_eq_self
  | cons char rest ih =>
    cases continues : continuesIdentifier char <;> simp [continues, ih]

theorem splitLiteral_body {source body after : List Char}
    (split : splitLiteral source = some (body, after)) (more : List Char) :
    splitLiteral (body ++ '"' :: more) = some (body, more) := by
  induction source using splitLiteral.induct generalizing body after with
  | case1 => simp [splitLiteral] at split
  | case2 rest =>
    simp only [splitLiteral, Option.some.injEq, Prod.mk.injEq] at split
    obtain ⟨rfl, rfl⟩ := split
    rfl
  | case3 escaped rest ih =>
    simp only [splitLiteral, Option.map_eq_some_iff] at split
    obtain ⟨⟨inner, tail⟩, found, pair⟩ := split
    simp only [Prod.mk.injEq] at pair
    obtain ⟨rfl, rfl⟩ := pair
    simp [splitLiteral, ih found]
  | case4 char rest notQuote notPair ih =>
    rw [splitLiteral] at split
    · simp only [Option.map_eq_some_iff] at split
      obtain ⟨⟨inner, tail⟩, found, pair⟩ := split
      simp only [Prod.mk.injEq] at pair
      obtain ⟨rfl, rfl⟩ := pair
      rw [List.cons_append, splitLiteral, ih found]
      · rfl
      · exact notQuote
      · intro escaped tail same whole
        cases rest with
        | nil => cases found
        | cons next others => exact notPair next others same rfl
    · exact notQuote
    · exact notPair

theorem splitLiteral_append_of_eq_some {source body after : List Char} (more : List Char)
    (split : splitLiteral source = some (body, after)) :
    splitLiteral (source ++ more) = some (body, after ++ more) := by
  have whole := splitLiteral_append split
  rw [← whole, List.append_assoc, List.cons_append]
  exact splitLiteral_body split (after ++ more)

theorem lexeme_append (char : Char) (rest : List Char) {more : List Char}
    (wellFormed : (lexeme char rest).kind.isMalformed = false) (separates : Separates more) :
    lexeme char (rest ++ more) =
      { lexeme char rest with rest := (lexeme char rest).rest ++ more } := by
  rcases lexeme_cases char with ⟨kind, _, _, same⟩ | ⟨_, same⟩ | ⟨_, same⟩
  · rw [same, same]
  · rw [same] at wellFormed
    rw [same, same]
    simp only [literalLexeme] at wellFormed ⊢
    cases found : splitLiteral rest with
    | none => simp [found, TokenKind.isMalformed] at wellFormed
    | some pair =>
      obtain ⟨body, after⟩ := pair
      simp [splitLiteral_append_of_eq_some more found]
  · rw [same, same]
    simp [identifierLexeme, takeWhile_append_of_separates rest separates,
      dropWhile_append_of_separates rest separates]

theorem beforeEnd_scanFrom_append (position : Position) (source : List Char) {more : List Char}
    (wellFormed : ∀ kind ∈ kinds source, kind.isMalformed = false) (separates : Separates more) :
    beforeEnd (scanFrom position (source ++ more)) =
      beforeEnd (scanFrom position source)
        ++ beforeEnd (scanFrom (position.after source) more) := by
  -- A malformed lexeme is ruled out because more text could complete it, as a quote does a literal.
  induction source using source_induction generalizing position with
  | nil => simp
  | blank char rest blank ih =>
    rw [kinds_blank _ blank] at wellFormed
    rw [List.cons_append, scanFrom_blank _ _ blank, scanFrom_blank _ _ blank, ih _ wellFormed,
      Position.after_cons]
  | lexeme char rest solid ih =>
    rw [kinds_lexeme _ solid, List.forall_mem_cons] at wellFormed
    have whole := lexeme_text_append_rest char rest
    rw [List.cons_append, beforeEnd_scanFrom_lexeme _ _ solid, beforeEnd_scanFrom_lexeme _ _ solid,
      lexeme_append char rest wellFormed.1 separates, ih _ wellFormed.2, List.cons_append,
      ← Position.after_append, whole]

def IsNameStart (char : Char) : Prop :=
  ('A' ≤ char ∧ char ≤ 'Z') ∨ ('a' ≤ char ∧ char ≤ 'z') ∨ ('0' ≤ char ∧ char ≤ '9') ∨ char = '_'

def IsName (text : String) : Prop :=
  ∃ first rest, text.toList = first :: rest ∧ IsNameStart first
    ∧ ∀ char ∈ rest, IsNameStart char ∨ char = '-'

theorem isUpper_iff (char : Char) : char.isUpper = true ↔ 'A' ≤ char ∧ char ≤ 'Z' :=
  decide_eq_true_iff

theorem isLower_iff (char : Char) : char.isLower = true ↔ 'a' ≤ char ∧ char ≤ 'z' :=
  (Bool.and_eq_true _ _).to_iff.trans (and_congr decide_eq_true_iff decide_eq_true_iff)

theorem isDigit_iff (char : Char) : char.isDigit = true ↔ '0' ≤ char ∧ char ≤ '9' :=
  (Bool.and_eq_true _ _).to_iff.trans (and_congr decide_eq_true_iff decide_eq_true_iff)

theorem startsIdentifier_iff (char : Char) : startsIdentifier char = true ↔ IsNameStart char := by
  change (((char.isUpper || char.isLower) || char.isDigit) || decide (char = '_')) = true ↔ _
  simp only [Bool.or_eq_true, isUpper_iff, isLower_iff, isDigit_iff, decide_eq_true_iff,
    IsNameStart, or_assoc]

theorem continuesIdentifier_iff (char : Char) :
    continuesIdentifier char = true ↔ IsNameStart char ∨ char = '-' := by
  simp [continuesIdentifier, startsIdentifier_iff]

instance : DecidablePred IsNameStart := fun char => decidable_of_iff _ (startsIdentifier_iff char)

instance (text : String) : Decidable (IsName text) :=
  match whole : text.toList with
  | [] => .isFalse (by
    intro name
    obtain ⟨first, rest, same, _⟩ := name
    rw [whole] at same
    cases same)
  | first :: rest =>
    decidable_of_iff (startsIdentifier first = true ∧ rest.all continuesIdentifier = true) (by
      simp only [startsIdentifier_iff, List.all_eq_true, continuesIdentifier_iff]
      constructor
      next =>
        intro valid
        exact ⟨first, rest, whole, valid⟩
      next =>
        intro name
        obtain ⟨_, _, same, valid⟩ := name
        rw [whole] at same
        cases same
        exact valid)

theorem isBlank_of_startsIdentifier {char : Char} (starts : startsIdentifier char = true) :
    isBlank char = false := by
  cases blank : isBlank char with
  | false => rfl
  | true => rcases isBlank_cases blank with rfl | rfl | rfl | rfl <;> cases starts

theorem kinds_identifier {text : String} (name : IsName text) {more : List Char}
    (separates : Separates more) :
    kinds (text.toList ++ more) = .identifier text :: kinds more := by
  obtain ⟨first, rest, whole, starts, continues⟩ := name
  have starts := (startsIdentifier_iff first).mpr starts
  have continues : ∀ char ∈ rest, continuesIdentifier char = true := fun char member =>
    (continuesIdentifier_iff char).mpr (continues char member)
  have taken : rest.takeWhile continuesIdentifier = rest := List.takeWhile_eq_self_iff.mpr continues
  have dropped : rest.dropWhile continuesIdentifier = [] := List.dropWhile_eq_nil_iff.mpr continues
  rw [whole, List.cons_append, kinds_lexeme _ (isBlank_of_startsIdentifier starts),
    lexeme_of_startsIdentifier _ starts]
  simp [identifierLexeme, takeWhile_append_of_separates rest separates,
    dropWhile_append_of_separates rest separates, taken, dropped, ← whole]

theorem isName_of_lexeme {char : Char} {rest : List Char} {text : String}
    (same : (lexeme char rest).kind = .identifier text) : IsName text := by
  unfold lexeme at same
  split at same <;> try cases same
  · simp only [literalLexeme] at same
    split at same <;> cases same
  · next other _ _ _ _ _ _ _ _ =>
    split at same
    next starts =>
      cases same
      refine ⟨char, rest.takeWhile continuesIdentifier, by simp, ?_, ?_⟩
      · exact (startsIdentifier_iff _).mp starts
      · intro char member
        exact (continuesIdentifier_iff char).mp (List.mem_takeWhile_imp member)
    next => cases same

theorem isName_of_mem_kinds {source : List Char} {text : String}
    (member : .identifier text ∈ kinds source) : IsName text := by
  induction source using source_induction with
  | nil => simp at member
  | blank char rest blank ih =>
    rw [kinds_blank _ blank] at member
    exact ih member
  | lexeme char rest solid ih =>
    rw [kinds_lexeme _ solid, List.mem_cons] at member
    rcases member with same | later
    · exact isName_of_lexeme same.symm
    · exact ih later

end Token

end Inquiry
