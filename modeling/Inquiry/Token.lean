import Inquiry.Source.Position
import Inquiry.Text.Quoted

set_option autoImplicit false

namespace Inquiry

inductive TokenKind where
  | identifier (name : String)
  | literal (value : String)
  | openParen
  | closeParen
  | openBrace
  | closeBrace
  | equals
  | comma
  | semicolon
  | endOfInput
  | malformed (message got : String)
deriving DecidableEq

namespace TokenKind

def describe : TokenKind → String
  | identifier name => s!"identifier `{name}`"
  | literal value => s!"string {Text.quoted value}"
  | openParen => "`(`"
  | closeParen => "`)`"
  | openBrace => "`\x7b`"
  | closeBrace => "`\x7d`"
  | equals => "`=`"
  | comma => "`,`"
  | semicolon => "`;`"
  | endOfInput => "end of input"
  | malformed message _ => message

def sourceText : TokenKind → String
  | identifier name => name
  | literal value => value
  | openParen => "("
  | closeParen => ")"
  | openBrace => "\x7b"
  | closeBrace => "\x7d"
  | equals => "="
  | comma => ","
  | semicolon => ";"
  | endOfInput => "end of input"
  | malformed _ got => got

def isEnd : TokenKind → Bool
  | endOfInput => true
  | _ => false

def isMalformed : TokenKind → Bool
  | malformed _ _ => true
  | _ => false

end TokenKind

structure Token where
  kind : TokenKind
  span : Span
deriving DecidableEq

end Inquiry
