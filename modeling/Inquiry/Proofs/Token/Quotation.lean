import Inquiry.Proofs.Token.Scanning

set_option autoImplicit false

namespace Inquiry.Token

def escape : List Char → List Char
  | [] => []
  | char :: rest =>
    if char = '"' ∨ char = '\\' then '\\' :: char :: escape rest else char :: escape rest

theorem splitLiteral_cons_of_ne {char : Char} (rest : List Char) (notQuote : char ≠ '"')
    (notBackslash : char ≠ '\\') :
    splitLiteral (char :: rest) =
      (splitLiteral rest).map fun (body, after) => (char :: body, after) := by
  rw [splitLiteral]
  · exact notQuote
  · exact fun _ _ same => absurd same notBackslash

theorem unescape_cons_of_ne {char : Char} (rest : List Char) (notBackslash : char ≠ '\\') :
    unescape (char :: rest) = char :: unescape rest := by
  rw [unescape] <;> intros <;> contradiction

def pairValue : Char → List Char
  | '"' => ['"']
  | '\\' => ['\\']
  | 'n' => ['\n']
  | 't' => ['\t']
  | other => ['\\', other]

theorem unescape_pair (second : Char) (rest : List Char) :
    unescape ('\\' :: second :: rest) = pairValue second ++ unescape rest := by
  unfold pairValue
  split <;> rw [unescape] <;> first | rfl | assumption

theorem splitLiteral_escape (text after : List Char) :
    splitLiteral (escape text ++ '"' :: after) = some (escape text, after) := by
  induction text with
  | nil => rfl
  | cons char rest ih =>
    by_cases special : char = '"' ∨ char = '\\'
    · simp [escape, special, splitLiteral, ih]
    · obtain ⟨notQuote, notBackslash⟩ := not_or.mp special
      simp [escape, special, splitLiteral_cons_of_ne _ notQuote notBackslash, ih]

theorem unescape_escape (text : List Char) : unescape (escape text) = text := by
  induction text with
  | nil => rfl
  | cons char rest ih =>
    by_cases special : char = '"' ∨ char = '\\'
    · rw [escape, if_pos special]
      rcases special with rfl | rfl <;> rw [unescape, ih]
    · rw [escape, if_neg special, unescape_cons_of_ne _ (not_or.mp special).2, ih]

theorem kinds_literal (text : String) (more : List Char) :
    kinds ('"' :: escape text.toList ++ '"' :: more) = .literal text :: kinds more := by
  have read : lexeme '"' (escape text.toList ++ '"' :: more) =
      ⟨.literal text, '"' :: escape text.toList ++ ['"'], more⟩ := by
    simp [lexeme, literalLexeme, splitLiteral_escape, unescape_escape]
  rw [List.cons_append, kinds_lexeme _ rfl, read]

end Inquiry.Token
