import Inquiry.Proofs.Text.Folding
import Inquiry.Proofs.Token.Bytes
import Inquiry.Proofs.Token.Quotation

set_option autoImplicit false

namespace Inquiry

theorem byte_cases {P : UInt8 → Prop} (each : ∀ code < 256, P (UInt8.ofNat code)) (byte : UInt8) :
    P byte := by
  have holds := each byte.toNat byte.toNat_lt
  rwa [UInt8.ofNat_toNat] at holds

namespace Token

theorem ascii_of_isNameStart {char : Char} (starts : IsNameStart char) : char.toNat < 128 := by
  have upTo : ∀ {last : Char}, char ≤ last → last.toNat < 128 → char.toNat < 128 :=
    fun below ascii => Nat.lt_of_le_of_lt below ascii
  rcases starts with ⟨_, below⟩ | ⟨_, below⟩ | ⟨_, below⟩ | rfl
  · exact upTo below (by decide)
  · exact upTo below (by decide)
  · exact upTo below (by decide)
  · decide

theorem startsIdentifier_foreign {char : Char} (foreign : 128 ≤ char.toNat) :
    startsIdentifier char = false := by
  rw [Bool.eq_false_iff, Ne, startsIdentifier_iff]
  intro starts
  exact absurd (ascii_of_isNameStart starts) (Nat.not_lt.mpr foreign)

end Token

namespace Lexer

/-- A test of bytes that is one of characters: the same for ASCII, and nothing else passes. -/
structure Tests (test : UInt8 → Bool) (keeps : Char → Bool) : Prop where
  ascii : ∀ char : Char, char.toNat < 128 → test char.toUInt8 = keeps char
  foreignByte : ∀ byte, 128 ≤ byte → test byte = false
  foreignChar : ∀ char : Char, 128 ≤ char.toNat → keeps char = false

theorem ne_of_foreign {char : Char} (foreign : 128 ≤ char.toNat) {known : Char}
    (ascii : known.toNat < 128) : char ≠ known := by
  rintro rfl
  omega

theorem tests_isBlank : Tests isBlank Token.isBlank where
  ascii _ := Text.ascii_cases (P := fun char => isBlank char.toUInt8 = Token.isBlank char)
    (by decide +kernel)
  foreignByte := byte_cases (by decide +kernel)
  foreignChar char foreign := by
    simp [Token.isBlank, ne_of_foreign foreign]

theorem tests_startsIdentifier : Tests startsIdentifier Token.startsIdentifier where
  ascii _ := Text.ascii_cases
    (P := fun char => startsIdentifier char.toUInt8 = Token.startsIdentifier char)
    (by decide +kernel)
  foreignByte := byte_cases (by decide +kernel)
  foreignChar _ := Token.startsIdentifier_foreign

theorem tests_continuesIdentifier : Tests continuesIdentifier Token.continuesIdentifier where
  ascii _ := Text.ascii_cases
    (P := fun char => continuesIdentifier char.toUInt8 = Token.continuesIdentifier char)
    (by decide +kernel)
  foreignByte := byte_cases (by decide +kernel)
  foreignChar char foreign := by
    simp [Token.continuesIdentifier, Token.startsIdentifier_foreign foreign, ne_of_foreign foreign]

theorem skipWhile_stop {lexer : Lexer} {test : UInt8 → Bool} {offset : Nat}
    (fails : ∀ byte ∈ lexer.byteAt? offset, test byte = false) :
    lexer.skipWhile test offset = offset := by
  rw [skipWhile]
  split
  next byte found => simp [fails byte found]
  next => rfl

theorem skipWhile_pass {lexer : Lexer} {test : UInt8 → Bool} {offset : Nat} {byte : UInt8}
    (found : lexer.byteAt? offset = some byte) (passes : test byte = true) :
    lexer.skipWhile test offset = lexer.skipWhile test (offset + 1) := by
  rw [skipWhile]
  split
  next same =>
    obtain rfl := Option.some.inj (found.symm.trans same)
    simp [passes]
  next same => cases found.symm.trans same

theorem skipWhile_eq {test : UInt8 → Bool} {keeps : Char → Bool} (tests : Tests test keeps)
    {lexer : Lexer} {before after : List Char} (split : lexer.source.toList = before ++ after) :
    lexer.skipWhile test (byteLength before) = byteLength (before ++ after.takeWhile keeps) := by
  induction after generalizing before with
  | nil =>
    rw [List.append_nil] at split
    simp [skipWhile_stop, byteAt?_end split]
  | cons char rest ih =>
    by_cases ascii : char.toNat < 128
    case pos =>
      have found := byteAt?_ascii ascii split
      have same := tests.ascii char ascii
      cases keep : keeps char with
      | true =>
        have moved : lexer.source.toList = (before ++ [char]) ++ rest := by simp [split]
        have later := ih moved
        rw [byteLength_concat before ascii] at later
        rw [skipWhile_pass found (same.trans keep)]
        simpa [keep] using later
      | false =>
        have stops : test char.toUInt8 = false := same.trans keep
        simp [skipWhile_stop, found, stops, keep]
    case neg =>
      have foreign := Nat.not_lt.mp ascii
      obtain ⟨byte, found, large⟩ := byteAt?_foreign foreign split char.utf8Size_pos
      have stops := tests.foreignByte byte large
      rw [Nat.add_zero] at found
      simp [skipWhile_stop, found, stops, tests.foreignChar char foreign]

section

variable {lexer : Lexer} {start runStart cursor : Nat} {cooked : Option String}

theorem readLiteral_end (found : lexer.byteAt? cursor = none) :
    lexer.readLiteral start runStart cursor cooked =
      (lexer.slice? start lexer.size).map fun got =>
        (.malformed "unterminated string literal" got, lexer.size) := by
  rw [readLiteral.eq_def]
  split
  next => cases lexer.slice? start lexer.size <;> rfl
  next same => cases found.symm.trans same

theorem readLiteral_quote (found : lexer.byteAt? cursor = some '"'.toUInt8) :
    lexer.readLiteral start runStart cursor cooked =
      (lexer.slice? (cooked.elim (start + 1) fun _ => runStart) cursor).map fun run =>
        (.literal (cooked.getD "" ++ run), cursor + 1) := by
  rw [readLiteral.eq_def]
  split
  next same => cases found.symm.trans same
  next byte same =>
    obtain rfl := Option.some.inj (found.symm.trans same)
    rw [if_pos rfl]
    cases cooked with
    | none => cases cut : lexer.slice? (start + 1) cursor <;> simp [cut]
    | some text => cases cut : lexer.slice? runStart cursor <;> simp [cut]

-- Past a byte that does not end the run; a backslash does not if it is the last byte.
theorem readLiteral_run {byte : UInt8} (found : lexer.byteAt? cursor = some byte)
    (notQuote : byte ≠ '"'.toUInt8)
    (alone : byte = '\\'.toUInt8 → lexer.byteAt? (cursor + 1) = none) :
    lexer.readLiteral start runStart cursor cooked =
      lexer.readLiteral start runStart (cursor + 1) cooked := by
  rw [readLiteral.eq_def]
  split
  next same => cases found.symm.trans same
  next other same =>
    obtain rfl := Option.some.inj (found.symm.trans same)
    rw [if_neg notQuote]
    split
    next backslash =>
      rw [alone backslash]
    next => rfl

theorem readLiteral_escape {second : UInt8} (found : lexer.byteAt? cursor = some '\\'.toUInt8)
    (behind : lexer.byteAt? (cursor + 1) = some second) {run : String}
    (cut : lexer.slice? runStart cursor = some run) :
    lexer.readLiteral start runStart cursor cooked =
      match escaped? second with
      | some char =>
        lexer.readLiteral start (cursor + 2) (cursor + 2)
          (some ((cooked.getD "" ++ run).push char))
      | none =>
        (lexer.charAt? (cursor + 1)).bind fun other =>
          let after := cursor + 1 + other.elim 1 Char.utf8Size
          (lexer.slice? cursor after).bind fun pair =>
            lexer.readLiteral start after after (some (cooked.getD "" ++ run ++ pair)) := by
  rw [readLiteral.eq_def]
  split
  next same => cases found.symm.trans same
  next other same =>
    obtain rfl := Option.some.inj (found.symm.trans same)
    rw [if_neg (by decide), if_pos rfl, behind]
    cases known : escaped? second with
    | none => simp only [cut, known, Option.bind_eq_bind, Option.bind_some]
    | some char => simp only [cut, known, Option.bind_eq_bind, Option.bind_some]

end

section

variable {lexer : Lexer} {start : Nat} {cooked : Option String} {front run after : List Char}

theorem exists_byte_of_pair {before : List Char} {second : Char}
    (split : lexer.source.toList = before ++ '\\' :: second :: after) :
    ∃ byte, lexer.byteAt? (byteLength before + 1) = some byte
      ∧ Token.pairValue second = (escaped? byte).elim ['\\', second] ([·])
      ∧ ((escaped? byte).isSome → second.utf8Size = 1) := by
  have split : lexer.source.toList = (before ++ ['\\']) ++ second :: after := by simp [split]
  have place : byteLength (before ++ ['\\']) = byteLength before + 1 :=
    byteLength_concat before (by decide)
  by_cases ascii : second.toNat < 128
  case pos =>
    refine ⟨second.toUInt8, place ▸ byteAt?_ascii ascii split, ?_,
      fun _ => utf8Size_of_ascii ascii⟩
    exact Text.ascii_cases (P := fun char => Token.pairValue char =
      (escaped? char.toUInt8).elim ['\\', char] ([·])) (by decide +kernel) ascii
  case neg =>
    have foreign := Nat.not_lt.mp ascii
    obtain ⟨byte, found, large⟩ := byteAt?_foreign foreign split second.utf8Size_pos
    have unknown : escaped? byte = none :=
      byte_cases (P := fun byte => 128 ≤ byte → escaped? byte = none) (by decide +kernel) byte large
    have verbatim : Token.pairValue second = ['\\', second] := by
      unfold Token.pairValue
      split <;> first | rfl | exact absurd (by decide) ascii
    exact ⟨byte, place ▸ found, by rw [unknown, verbatim]; rfl, by simp [unknown]⟩

theorem readLiteral_pair {second : Char}
    (split : lexer.source.toList = front ++ run ++ '\\' :: second :: after) :
    lexer.readLiteral start (byteLength front) (byteLength (front ++ run)) cooked =
      lexer.readLiteral start (byteLength (front ++ run ++ ['\\', second]))
        (byteLength (front ++ run ++ ['\\', second]))
        (some (cooked.getD "" ++ String.ofList (run ++ Token.pairValue second))) := by
  obtain ⟨byte, behind, value, narrow⟩ := exists_byte_of_pair split
  have found := byteAt?_ascii (by decide) split
  have stop : byteLength (front ++ run ++ ['\\', second]) =
      byteLength (front ++ run) + 1 + second.utf8Size := by
    have backslash : '\\'.utf8Size = 1 := rfl
    simp only [byteLength_append, byteLength_cons, byteLength_nil, backslash]
    omega
  rw [readLiteral_escape found behind (slice?_of_split split), value]
  cases known : escaped? byte with
  | some char =>
    have text : (cooked.getD "" ++ String.ofList run).push char =
        cooked.getD "" ++ String.ofList (run ++ [char]) := by simp [← String.toList_inj]
    rw [stop, narrow (by rw [known]; rfl), Option.elim_some, ← text]
  | none =>
    have text : cooked.getD "" ++ String.ofList run ++ String.ofList ['\\', second] =
        cooked.getD "" ++ String.ofList (run ++ ['\\', second]) := by simp [← String.toList_inj]
    have behindIt : lexer.source.toList = (front ++ run ++ ['\\']) ++ second :: after := by
      simp [split]
    have other : lexer.charAt? (byteLength (front ++ run) + 1) = some (some second) := by
      have place : byteLength (front ++ run ++ ['\\']) = byteLength (front ++ run) + 1 :=
        byteLength_concat (front ++ run) (by decide)
      rw [← place]
      exact charAt?_of_split behindIt
    have whole : lexer.source.toList = front ++ run ++ ['\\', second] ++ after := by simp [split]
    have pair : lexer.slice? (byteLength (front ++ run)) (byteLength (front ++ run) + 1
        + second.utf8Size) = some (String.ofList ['\\', second]) := by
      rw [← stop]
      exact slice?_of_split whole
    simp only [other, Option.bind_some, Option.elim_some, Option.elim_none, pair, stop, text]

theorem eq_of_toUInt8_eq {char known : Char} (ascii : char.toNat < 128) (small : known.toNat < 128)
    (same : char.toUInt8 = known.toUInt8) : char = known := by
  have code : ∀ {char : Char}, char.toNat < 128 → char.toUInt8.toNat = char.toNat :=
    Text.ascii_cases (P := fun char => char.toUInt8.toNat = char.toNat) (by decide +kernel)
  have codes : char.toNat = known.toNat := by rw [← code ascii, same, code small]
  exact Char.toNat_inj.mp codes

-- Past a character that does not end the run; a backslash does not if it is the last character.
theorem readLiteral_char {runStart : Nat} {char : Char} {before : List Char}
    (split : lexer.source.toList = before ++ char :: after) (notQuote : char ≠ '"')
    (alone : char = '\\' → after = []) :
    lexer.readLiteral start runStart (byteLength before) cooked =
      lexer.readLiteral start runStart (byteLength (before ++ [char])) cooked := by
  by_cases ascii : char.toNat < 128
  case pos =>
    rw [byteLength_concat before ascii]
    refine readLiteral_run (byteAt?_ascii ascii split)
      (fun same => notQuote (eq_of_toUInt8_eq ascii (by decide) same)) fun same => ?_
    obtain rfl := eq_of_toUInt8_eq ascii (by decide) same
    obtain rfl := alone rfl
    rw [← byteLength_concat before ascii]
    exact byteAt?_end split
  case neg =>
    -- None of the bytes of the character is a quote or a backslash.
    have upTo : ∀ count ≤ char.utf8Size,
        lexer.readLiteral start runStart (byteLength before) cooked =
          lexer.readLiteral start runStart (byteLength before + count) cooked := by
      intro count le
      induction count with
      | zero => rfl
      | succ count ih =>
        obtain ⟨byte, found, large⟩ := byteAt?_foreign (Nat.not_lt.mp ascii) split le
        have plain := byte_cases (P := fun byte => 128 ≤ byte →
          byte ≠ '"'.toUInt8 ∧ byte ≠ '\\'.toUInt8) (by decide +kernel) byte large
        rw [ih (Nat.le_of_succ_le le)]
        exact readLiteral_run found plain.1 fun same => absurd same plain.2
    rw [byteLength_append]
    exact upTo char.utf8Size (Nat.le_refl _)

theorem readLiteral_eq {opened : List Char} {tail : List Char}
    (opening : lexer.source.toList = opened ++ '"' :: tail)
    (split : lexer.source.toList = front ++ run ++ after)
    (uncooked : cooked = none → front = opened ++ ['"']) :
    lexer.readLiteral (byteLength opened) (byteLength front) (byteLength (front ++ run)) cooked =
      some ((Token.splitLiteral after).elim
        (.malformed "unterminated string literal" (String.ofList ('"' :: tail)), lexer.size)
        fun closed =>
          (.literal (cooked.getD "" ++ String.ofList (run ++ Token.unescape closed.1)),
            byteLength (front ++ run ++ closed.1 ++ ['"']))) := by
  induction after using Token.splitLiteral.induct generalizing front run cooked with
  | case1 =>
    rw [List.append_nil] at split
    have whole : lexer.source.toList = opened ++ '"' :: tail ++ [] := by simp [opening]
    have got : lexer.slice? (byteLength opened) lexer.size = some (String.ofList ('"' :: tail)) := by
      rw [size_eq, opening]
      exact slice?_of_split whole
    rw [readLiteral_end (byteAt?_end split), got]
    rfl
  | case2 rest =>
    have start : (cooked.elim (byteLength opened + 1) fun _ => byteLength front) =
        byteLength front := by
      cases cooked with
      | none => rw [uncooked rfl, byteLength_concat opened (by decide), Option.elim_none]
      | some _ => rfl
    rw [readLiteral_quote (byteAt?_ascii (by decide) split), start, slice?_of_split split]
    simp [Token.splitLiteral, Token.unescape]
    rfl
  | case3 second rest ih =>
    have moved : lexer.source.toList = (front ++ run ++ ['\\', second]) ++ [] ++ rest := by
      simp [split]
    have later := fun text => @ih (some text) _ _ moved (by simp)
    rw [List.append_nil] at later
    rw [readLiteral_pair split, later, Token.splitLiteral]
    cases Token.splitLiteral rest with
    | none => rfl
    | some pair =>
      simp [Token.unescape_pair, ← String.toList_inj, Nat.add_assoc]
  | case4 char rest notQuote notPair ih =>
    have alone : char = '\\' → rest = [] := by
      intro backslash
      cases rest with
      | nil => rfl
      | cons second others => exact absurd rfl (notPair second others backslash)
    have moved : lexer.source.toList = front ++ (run ++ [char]) ++ rest := by simp [split]
    have later := ih moved uncooked
    rw [← List.append_assoc] at later
    rw [readLiteral_char split notQuote alone, later, Token.splitLiteral]
    cases found : Token.splitLiteral rest with
    | none => rfl
    | some pair =>
      have notBackslash : char ≠ '\\' := by
        intro backslash
        rw [alone backslash] at found
        cases found
      simp [Token.unescape_cons_of_ne _ notBackslash, Nat.add_assoc]
    · exact notQuote
    · exact notPair

end

section

variable {lexer : Lexer} {before rest : List Char} {char : Char}

theorem readIdentifier_eq (split : lexer.source.toList = before ++ char :: rest)
    (ascii : char.toNat < 128) :
    lexer.readIdentifier (byteLength before) =
      some ((Token.identifierLexeme char rest).kind,
        byteLength (before ++ (Token.identifierLexeme char rest).text)) := by
  have further : lexer.source.toList = before ++ [char] ++ rest := by simp [split]
  have skipped := skipWhile_eq tests_continuesIdentifier further
  rw [byteLength_concat before ascii] at skipped
  have there : lexer.source.toList = before ++ (Token.identifierLexeme char rest).text
      ++ (Token.identifierLexeme char rest).rest := by
    simp [split, Token.identifierLexeme, List.takeWhile_append_dropWhile]
  have name : lexer.slice? (byteLength before)
      (byteLength (before ++ (Token.identifierLexeme char rest).text)) =
        some (String.ofList (Token.identifierLexeme char rest).text) :=
    slice?_of_split there
  have stop : lexer.skipWhile continuesIdentifier (byteLength before + 1) =
      byteLength (before ++ (Token.identifierLexeme char rest).text) := by
    rw [skipped]
    simp [Token.identifierLexeme]
  rw [readIdentifier, stop, name]
  rfl

theorem readToken_eq (split : lexer.source.toList = before ++ char :: rest) :
    lexer.readToken (byteLength before) char =
      some ((Token.lexeme char rest).kind,
        byteLength (before ++ (Token.lexeme char rest).text)) := by
  unfold readToken
  split
  case h_8 =>
    have inside : lexer.source.toList = (before ++ ['"']) ++ [] ++ rest := by simp [split]
    have read := @readLiteral_eq _ none _ _ _ _ _ split inside fun _ => rfl
    rw [List.append_nil, byteLength_concat before (by decide)] at read
    rw [read, Token.lexeme, Token.literalLexeme]
    cases Token.splitLiteral rest with
    | none => simp [size_eq, split]
    | some pair => simp
  case h_9 =>
    have reads : (char.toNat < 128 && startsIdentifier char.toUInt8) =
        Token.startsIdentifier char := by
      by_cases ascii : char.toNat < 128
      · simp [ascii, tests_startsIdentifier.ascii char ascii]
      · simp [ascii, tests_startsIdentifier.foreignChar char (Nat.not_lt.mp ascii)]
    have read : Token.lexeme char rest =
        if Token.startsIdentifier char then Token.identifierLexeme char rest
        else ⟨Token.unexpectedCharacter char, [char], rest⟩ := by
      unfold Token.lexeme
      split <;> first | contradiction | rfl
    rw [reads, read]
    cases starts : Token.startsIdentifier char with
    | true =>
      have ascii := Token.ascii_of_isNameStart ((Token.startsIdentifier_iff char).mp starts)
      exact readIdentifier_eq split ascii
    | false => simp
  all_goals exact congrArg some (Prod.ext rfl (byteLength_concat before (by decide)).symm)

end

/-- The lexer has gone through the first text of its source, and the second is left. -/
structure Between (lexer : Lexer) (before after : List Char) : Prop where
  split : lexer.source.toList = before ++ after
  offset : lexer.offset = byteLength before
  place : lexer.place = Position.origin.after before
  unfinished : lexer.finished = false

def Takes (lexer : Lexer) (before text after : List Char) (kind : TokenKind) (later : Lexer) :
    Prop :=
  lexer.next = some (some ⟨kind,
      ⟨Position.origin.after before, Position.origin.after (before ++ text)⟩⟩, later)
    ∧ later.Between (before ++ text) after

theorem between_ofSource {source : String} {text : List Char} (whole : source.toList = text) :
    (ofSource source).Between [] text where
  split := whole
  offset := rfl
  place := rfl
  unfinished := rfl

namespace Between

variable {lexer : Lexer} {before gap rest : List Char}

theorem skip_eq {after : List Char} (between : lexer.Between before after) :
    lexer.skipWhile isBlank (byteLength before) =
      byteLength (before ++ after.takeWhile Token.isBlank) :=
  skipWhile_eq tests_isBlank between.split

theorem next_end (between : lexer.Between before gap)
    (blank : ∀ char ∈ gap, Token.isBlank char = true) :
    ∃ later, later.finished = true ∧ lexer.next =
      some (some ⟨.endOfInput, .emptyAt (Position.origin.after (before ++ gap))⟩, later) := by
  have skipped := between.skip_eq
  rw [List.takeWhile_eq_self_iff.mpr blank] at skipped
  have here : lexer.source.toList = before ++ gap := between.split
  have whole : lexer.source.toList = before ++ gap ++ [] := by simp [here]
  refine ⟨{ lexer with
    offset := byteLength (before ++ gap)
    place := Position.origin.after (before ++ gap)
    finished := true }, rfl, ?_⟩
  simp only [next, between.unfinished, Bool.false_eq_true, if_false, between.offset, between.place,
    skipped, slice?_of_split whole, charAt?_end here, String.toList_ofList, ← Position.after_append,
    Option.bind_eq_bind, Option.bind_some, Option.pure_def]

theorem next_lexeme {char : Char} (between : lexer.Between before (gap ++ char :: rest))
    (blank : ∀ char ∈ gap, Token.isBlank char = true) (solid : Token.isBlank char = false) :
    ∃ later, lexer.Takes (before ++ gap) (Token.lexeme char rest).text
      (Token.lexeme char rest).rest (Token.lexeme char rest).kind later := by
  have skipped := between.skip_eq
  have passed : (gap ++ char :: rest).takeWhile Token.isBlank = gap := by
    rw [List.takeWhile_append_of_pos blank]
    simp [solid]
  have here : lexer.source.toList = before ++ gap ++ char :: rest := by simp [between.split]
  have whole := Token.lexeme_text_append_rest char rest
  have there : lexer.source.toList =
      before ++ gap ++ (Token.lexeme char rest).text ++ (Token.lexeme char rest).rest := by
    rw [List.append_assoc _ _ (Token.lexeme char rest).rest, whole, here]
  rw [passed] at skipped
  refine ⟨{ lexer with
    offset := byteLength (before ++ gap ++ (Token.lexeme char rest).text)
    place := Position.origin.after (before ++ gap ++ (Token.lexeme char rest).text) },
    ?_, there, rfl, rfl, between.unfinished⟩
  simp only [next, between.unfinished, Bool.false_eq_true, if_false, between.offset, between.place,
    skipped, slice?_of_split here, charAt?_of_split here, readToken_eq here, slice?_of_split there,
    String.toList_ofList, ← Position.after_append, Option.bind_eq_bind, Option.bind_some,
    Option.pure_def]

end Between

theorem next_finished {lexer : Lexer} (finished : lexer.finished = true) :
    lexer.next = some (none, lexer) := if_pos finished

theorem tokens?_finished {lexer : Lexer} (finished : lexer.finished = true) :
    lexer.tokens? = some [] := by
  rw [tokens?, next_finished finished]

theorem tokens?_next {lexer later : Lexer} {token : Token}
    (read : lexer.next = some (some token, later)) :
    lexer.tokens? = later.tokens?.map (token :: ·) := by
  rw [tokens?, read]

end Lexer

theorem Lexer.Between.tokens?_eq {lexer : Lexer} {before after : List Char}
    (between : lexer.Between before after) :
    lexer.tokens? = some (Token.scanFrom (Position.origin.after before) after) := by
  induction after using Token.gap_induction generalizing lexer before with
  | last gap blank =>
    obtain ⟨later, finished, read⟩ := between.next_end blank
    rw [tokens?_next read, tokens?_finished finished, Token.scanFrom_blanks _ blank,
      Position.after_append]
    rfl
  | lexeme gap char rest blank solid ih =>
    obtain ⟨later, read, standing⟩ := between.next_lexeme blank solid
    rw [tokens?_next read, ih standing, Token.scanFrom_gap _ _ blank,
      Token.scanFrom_lexeme _ _ solid]
    simp

theorem Token.scan_eq_scanFrom (source : String) :
    scan source = scanFrom .origin source.toList := by
  rw [scan, (Lexer.between_ofSource rfl).tokens?_eq]
  rfl

end Inquiry
