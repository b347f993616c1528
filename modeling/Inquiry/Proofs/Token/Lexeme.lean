import Inquiry.Token.Lexer

set_option autoImplicit false

namespace Inquiry

namespace Token

def isBlank (char : Char) : Bool :=
  char = ' ' || char = '\t' || char = '\r' || char = '\n'

def startsIdentifier (char : Char) : Bool := char.isAlphanum || char = '_'

def continuesIdentifier (char : Char) : Bool := startsIdentifier char || char = '-'

/-- Splits the text after an opening quote at the closing one. A backslash and the character after
it belong together, so neither of them closes the literal. -/
def splitLiteral : List Char → Option (List Char × List Char)
  | [] => none
  | '"' :: rest => some ([], rest)
  | '\\' :: escaped :: rest =>
    (splitLiteral rest).map fun (body, after) => ('\\' :: escaped :: body, after)
  | char :: rest => (splitLiteral rest).map fun (body, after) => (char :: body, after)

/-- The value of the text between the quotes. A pair that is no known escape stands for itself. -/
def unescape : List Char → List Char
  | [] => []
  | '\\' :: '"' :: rest => '"' :: unescape rest
  | '\\' :: '\\' :: rest => '\\' :: unescape rest
  | '\\' :: 'n' :: rest => '\n' :: unescape rest
  | '\\' :: 't' :: rest => '\t' :: unescape rest
  | '\\' :: other :: rest => '\\' :: other :: unescape rest
  | char :: rest => char :: unescape rest

structure Lexeme where
  kind : TokenKind
  text : List Char
  rest : List Char

def literalLexeme (rest : List Char) : Lexeme :=
  match splitLiteral rest with
  | some (body, after) =>
    ⟨.literal (String.ofList (unescape body)), '"' :: body ++ ['"'], after⟩
  | none =>
    ⟨.malformed "unterminated string literal" (String.ofList ('"' :: rest)), '"' :: rest, []⟩

def identifierLexeme (char : Char) (rest : List Char) : Lexeme :=
  let name := char :: rest.takeWhile continuesIdentifier
  ⟨.identifier (String.ofList name), name, rest.dropWhile continuesIdentifier⟩

def lexeme (char : Char) (rest : List Char) : Lexeme :=
  match char with
  | '(' => ⟨.openParen, ['('], rest⟩
  | ')' => ⟨.closeParen, [')'], rest⟩
  | '{' => ⟨.openBrace, ['{'], rest⟩
  | '}' => ⟨.closeBrace, ['}'], rest⟩
  | '=' => ⟨.equals, ['='], rest⟩
  | ',' => ⟨.comma, [','], rest⟩
  | ';' => ⟨.semicolon, [';'], rest⟩
  | '"' => literalLexeme rest
  | other =>
    if startsIdentifier other then identifierLexeme other rest
    else ⟨unexpectedCharacter other, [other], rest⟩

theorem splitLiteral_append {source body after : List Char}
    (split : splitLiteral source = some (body, after)) : body ++ '"' :: after = source := by
  induction source using splitLiteral.induct generalizing body after with
  | case1 => simp [splitLiteral] at split
  | case2 rest =>
    simp only [splitLiteral, Option.some.injEq, Prod.mk.injEq] at split
    obtain ⟨rfl, rfl⟩ := split
    rfl
  | case3 escaped rest ih =>
    simp only [splitLiteral, Option.map_eq_some_iff] at split
    obtain ⟨⟨inner, tail⟩, found, pair⟩ := split
    simp only [Prod.mk.injEq] at pair
    obtain ⟨rfl, rfl⟩ := pair
    simp [ih found]
  | case4 char rest notQuote notPair ih =>
    rw [splitLiteral] at split
    · simp only [Option.map_eq_some_iff] at split
      obtain ⟨⟨inner, tail⟩, found, pair⟩ := split
      simp only [Prod.mk.injEq] at pair
      obtain ⟨rfl, rfl⟩ := pair
      simp [ih found]
    · exact notQuote
    · exact notPair

theorem lexeme_text_append_rest (char : Char) (rest : List Char) :
    (lexeme char rest).text ++ (lexeme char rest).rest = char :: rest := by
  unfold lexeme
  split <;> try rfl
  · unfold literalLexeme
    split
    next body after split => simp [splitLiteral_append split]
    next => simp
  · split
    · simp [identifierLexeme, List.takeWhile_append_dropWhile]
    · rfl

theorem lexeme_text_ne_nil (char : Char) (rest : List Char) : (lexeme char rest).text ≠ [] := by
  unfold lexeme
  split <;> try simp
  · unfold literalLexeme
    split <;> simp
  · split <;> simp [identifierLexeme]

theorem lexeme_rest_length_le (char : Char) (rest : List Char) :
    (lexeme char rest).rest.length ≤ rest.length := by
  have whole := congrArg List.length (lexeme_text_append_rest char rest)
  have nonempty := List.length_pos_iff.mpr (lexeme_text_ne_nil char rest)
  simp only [List.length_append, List.length_cons] at whole
  omega

def scanFrom (position : Position) (source : List Char) : List Token :=
  match source with
  | [] => [⟨.endOfInput, .emptyAt position⟩]
  | char :: rest =>
    if isBlank char then scanFrom (position.advance char) rest
    else
      let found := lexeme char rest
      let stop := position.after found.text
      ⟨found.kind, ⟨position, stop⟩⟩ :: scanFrom stop found.rest
termination_by source.length
decreasing_by
  · simp
  · have shorter := lexeme_rest_length_le char rest
    simp only [List.length_cons]
    omega

end Token

end Inquiry
