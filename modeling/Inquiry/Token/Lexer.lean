import Inquiry.Token

/-!
From source text to tokens. A lexer stands at a byte offset of its source and moves on byte by
byte; text is cut out of the source only for what a token holds. Nothing can be cut where an offset
is past the end or inside a character, and then there is no result.
-/

set_option autoImplicit false

namespace Inquiry

structure Lexer where
  source : String
  offset : Nat
  place : Position
  finished : Bool

def Token.unexpectedCharacter (char : Char) : TokenKind :=
  .malformed s!"unexpected character {Text.quoted char.toString}" char.toString

namespace Lexer

def ofSource (source : String) : Lexer := ⟨source, 0, .origin, false⟩

def size (lexer : Lexer) : Nat := lexer.source.utf8ByteSize

def byteAt? (lexer : Lexer) (offset : Nat) : Option UInt8 :=
  if inside : (⟨offset⟩ : String.Pos.Raw) < lexer.source.rawEndPos then
    some (lexer.source.getUTF8Byte ⟨offset⟩ inside)
  else none

theorem lt_of_byteAt? {lexer : Lexer} {offset : Nat} {byte : UInt8}
    (found : lexer.byteAt? offset = some byte) : offset < lexer.size := by
  unfold byteAt? at found
  split at found
  next inside => exact inside
  next => cases found

def isBoundary (lexer : Lexer) (offset : Nat) : Bool :=
  (⟨offset⟩ : String.Pos.Raw).isValid lexer.source

def slice? (lexer : Lexer) (start stop : Nat) : Option String :=
  if start ≤ stop ∧ lexer.isBoundary start ∧ lexer.isBoundary stop then
    some ((⟨start⟩ : String.Pos.Raw).extract lexer.source ⟨stop⟩)
  else none

/-- The first character of the text from an offset on, if any. -/
def charAt? (lexer : Lexer) (offset : Nat) : Option (Option Char) :=
  if offset = lexer.size then some none
  else if lexer.isBoundary offset then some ((⟨offset⟩ : String.Pos.Raw).get lexer.source)
  else none

theorem eq_size_of_charAt? {lexer : Lexer} {offset : Nat}
    (found : lexer.charAt? offset = some none) : offset = lexer.size := by
  unfold charAt? at found
  split at found
  next last => exact last
  next => split at found <;> cases found

theorem lt_of_charAt? {lexer : Lexer} {offset : Nat} {char : Char}
    (found : lexer.charAt? offset = some (some char)) : offset < lexer.size := by
  unfold charAt? at found
  split at found
  next => cases found
  next elsewhere =>
    split at found
    next boundary =>
      have bound := (String.Pos.Raw.isValid_eq_true_iff.mp boundary).le_rawEndPos
      exact Nat.lt_of_le_of_ne bound elsewhere
    next => cases found

def isBlank (byte : UInt8) : Bool :=
  byte = ' '.toUInt8 || byte = '\t'.toUInt8 || byte = '\r'.toUInt8 || byte = '\n'.toUInt8

def startsIdentifier (byte : UInt8) : Bool :=
  'A'.toUInt8 ≤ byte && byte ≤ 'Z'.toUInt8 || 'a'.toUInt8 ≤ byte && byte ≤ 'z'.toUInt8
    || '0'.toUInt8 ≤ byte && byte ≤ '9'.toUInt8 || byte = '_'.toUInt8

def continuesIdentifier (byte : UInt8) : Bool := startsIdentifier byte || byte = '-'.toUInt8

def escaped? (byte : UInt8) : Option Char :=
  if byte = '"'.toUInt8 then some '"'
  else if byte = '\\'.toUInt8 then some '\\'
  else if byte = 'n'.toUInt8 then some '\n'
  else if byte = 't'.toUInt8 then some '\t'
  else none

def skipWhile (lexer : Lexer) (test : UInt8 → Bool) (offset : Nat) : Nat :=
  match _found : lexer.byteAt? offset with
  | some byte => if test byte then lexer.skipWhile test (offset + 1) else offset
  | none => offset
termination_by lexer.size - offset
decreasing_by
  have := lt_of_byteAt? _found
  omega

/-- Reads on in the literal that began at `start`, and gives the token and where it ends. Characters
that stand for themselves are copied in runs, of which the current one began at `runStart`; `cooked`
is the value before it, once an escape has been read. -/
def readLiteral (lexer : Lexer) (start runStart cursor : Nat) (cooked : Option String) :
    Option (TokenKind × Nat) :=
  match _found : lexer.byteAt? cursor with
  | none => do
    let got ← lexer.slice? start lexer.size
    return (.malformed "unterminated string literal" got, lexer.size)
  | some byte =>
    if byte = '"'.toUInt8 then
      match cooked with
      | some text => do
        let run ← lexer.slice? runStart cursor
        return (.literal (text ++ run), cursor + 1)
      | none => do
        let text ← lexer.slice? (start + 1) cursor
        return (.literal text, cursor + 1)
    else if byte = '\\'.toUInt8 then
      match lexer.byteAt? (cursor + 1) with
      | none => lexer.readLiteral start runStart (cursor + 1) cooked
      | some second => do
        let run ← lexer.slice? runStart cursor
        let text := cooked.getD "" ++ run
        match escaped? second with
        | some char => lexer.readLiteral start (cursor + 2) (cursor + 2) (some (text.push char))
        | none =>
          -- The escaped character may take several bytes.
          let other ← lexer.charAt? (cursor + 1)
          let after := cursor + 1 + other.elim 1 Char.utf8Size
          let pair ← lexer.slice? cursor after
          lexer.readLiteral start after after (some (text ++ pair))
    else lexer.readLiteral start runStart (cursor + 1) cooked
termination_by lexer.size - cursor
decreasing_by
  all_goals
    have := lt_of_byteAt? _found
    omega

def readIdentifier (lexer : Lexer) (start : Nat) : Option (TokenKind × Nat) := do
  let stop := lexer.skipWhile continuesIdentifier (start + 1)
  let name ← lexer.slice? start stop
  return (.identifier name, stop)

def readToken (lexer : Lexer) (start : Nat) (char : Char) : Option (TokenKind × Nat) :=
  match char with
  | '(' => some (.openParen, start + 1)
  | ')' => some (.closeParen, start + 1)
  | '{' => some (.openBrace, start + 1)
  | '}' => some (.closeBrace, start + 1)
  | '=' => some (.equals, start + 1)
  | ',' => some (.comma, start + 1)
  | ';' => some (.semicolon, start + 1)
  | '"' => lexer.readLiteral start (start + 1) (start + 1) none
  | other =>
    if other.toNat < 128 && startsIdentifier other.toUInt8 then lexer.readIdentifier start
    else some (Token.unexpectedCharacter other, start + other.utf8Size)

def next (lexer : Lexer) : Option (Option Token × Lexer) :=
  if lexer.finished then some (none, lexer)
  else do
    let start := lexer.skipWhile isBlank lexer.offset
    let gap ← lexer.slice? lexer.offset start
    let place := lexer.place.after gap.toList
    match ← lexer.charAt? start with
    | none =>
      let last : Token := ⟨.endOfInput, .emptyAt place⟩
      return (some last, { lexer with offset := start, place := place, finished := true })
    | some char =>
      let (kind, stop) ← lexer.readToken start char
      let text ← lexer.slice? start stop
      let behind := place.after text.toList
      return (some ⟨kind, ⟨place, behind⟩⟩, { lexer with offset := stop, place := behind })

theorem le_skipWhile (lexer : Lexer) (test : UInt8 → Bool) (offset : Nat) :
    offset ≤ lexer.skipWhile test offset := by
  fun_induction skipWhile with
  | case1 offset byte found passes ih => omega
  | case2 => exact Nat.le_refl _
  | case3 => exact Nat.le_refl _

theorem lt_of_readLiteral {lexer : Lexer} {start runStart cursor stop : Nat}
    {cooked : Option String} {kind : TokenKind} (inside : start < lexer.size)
    (behind : start ≤ cursor)
    (read : lexer.readLiteral start runStart cursor cooked = some (kind, stop)) : start < stop := by
  revert read
  fun_induction readLiteral lexer start runStart cursor cooked with
  | case1 =>
    simp only [Option.bind_eq_bind, Option.bind_eq_some_iff]
    rintro ⟨got, -, ⟨⟩⟩
    exact inside
  | case2 | case3 =>
    simp only [Option.bind_eq_bind, Option.bind_eq_some_iff]
    rintro ⟨text, -, ⟨⟩⟩
    omega
  | case4 runStart cursor cooked last found notQuote ih => exact ih (by omega)
  | case5 runStart cursor cooked second escaped found notQuote known unknown =>
    simp only [Option.bind_eq_bind, Option.bind_eq_some_iff]
    rintro ⟨run, -, read⟩
    split at read
    next char _ => exact known run char (by omega) read
    next =>
      simp only [Option.bind_eq_some_iff] at read
      obtain ⟨other, -, pair, -, read⟩ := read
      exact unknown run other pair (by omega) read
  | case6 runStart cursor cooked byte found notQuote notEscape ih => exact ih (by omega)

theorem lt_of_readToken {lexer : Lexer} {start stop : Nat} {char : Char} {kind : TokenKind}
    (inside : start < lexer.size) (read : lexer.readToken start char = some (kind, stop)) :
    start < stop := by
  unfold readToken at read
  split at read
  case h_8 => exact lt_of_readLiteral inside (by omega) read
  case h_9 =>
    split at read
    next =>
      have further := lexer.le_skipWhile continuesIdentifier (start + 1)
      simp only [readIdentifier, Option.bind_eq_bind, Option.bind_eq_some_iff] at read
      obtain ⟨name, -, ⟨⟩⟩ := read
      omega
    next =>
      have wide := char.utf8Size_pos
      cases read
      omega
  all_goals
    cases read
    omega

def remaining (lexer : Lexer) : Nat :=
  if lexer.finished then 0 else lexer.size + 1 - lexer.offset

theorem remaining_lt_of_next {lexer later : Lexer} {token : Token}
    (read : lexer.next = some (some token, later)) : later.remaining < lexer.remaining := by
  unfold next at read
  split at read
  next => cases read
  next unfinished =>
    have further := lexer.le_skipWhile isBlank lexer.offset
    have left : lexer.remaining = lexer.size + 1 - lexer.offset := if_neg unfinished
    simp only [Option.bind_eq_bind, Option.bind_eq_some_iff] at read
    obtain ⟨gap, -, first, found, read⟩ := read
    cases first with
    | none =>
      have last := eq_size_of_charAt? found
      cases read
      rw [left, remaining, if_pos rfl]
      omega
    | some char =>
      simp only [Option.bind_eq_some_iff] at read
      obtain ⟨⟨kind, stop⟩, read, text, -, ⟨⟩⟩ := read
      have inside := lt_of_charAt? found
      have moves := lt_of_readToken inside read
      rw [left, remaining, if_neg unfinished]
      change lexer.size + 1 - stop < lexer.size + 1 - lexer.offset
      omega

def tokens? (lexer : Lexer) : Option (List Token) :=
  match _read : lexer.next with
  | none => none
  | some (none, _) => some []
  | some (some token, later) => later.tokens?.map fun rest => token :: rest
termination_by lexer.remaining
decreasing_by exact remaining_lt_of_next _read

end Lexer

def Token.scan (source : String) : List Token := (Lexer.ofSource source).tokens?.getD []

end Inquiry
