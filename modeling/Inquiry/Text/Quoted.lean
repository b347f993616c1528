import Inquiry.Text.CodePoints

set_option autoImplicit false

namespace Inquiry.Text

/-- The halfwidth voiced sound marks extend graphemes, but they are letters with a cell of their
own. -/
def isHalfwidthVoicedMark (char : Char) : Bool := char = '\uff9e' || char = '\uff9f'

def joinsNeighbour (char : Char) : Bool :=
  graphemeExtend.contains char && !isHalfwidthVoicedMark char

def isHidden (char : Char) : Bool :=
  char.toNat > 0x7e
    && (joinsNeighbour char || unprintable.contains char || defaultIgnorable.contains char)

def codePointEscape (char : Char) : String :=
  "\\u\x7b" ++ String.ofList (Nat.toDigits 16 char.toNat) ++ "\x7d"

def quotedChar (char : Char) : String :=
  match char with
  | '"' => "\\\""
  | '\\' => "\\\\"
  | '\n' => "\\n"
  | '\r' => "\\r"
  | '\t' => "\\t"
  | '\x00' => "\\0"
  | other =>
    if other.toNat < 0x20 || isHidden other then codePointEscape other else other.toString

def quoted (text : String) : String :=
  "\"" ++ String.join (text.toList.map quotedChar) ++ "\""

end Inquiry.Text
