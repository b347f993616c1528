import Inquiry.Json

set_option autoImplicit false

namespace Inquiry.Json

def controlEscape (char : Char) : String :=
  let digits := Nat.toDigits 16 char.toNat
  "\\u" ++ String.ofList (List.replicate (4 - digits.length) '0' ++ digits)

def escapedChar (char : Char) : String :=
  match char with
  | '"' => "\\\""
  | '\\' => "\\\\"
  | '\x08' => "\\b"
  | '\x0c' => "\\f"
  | '\n' => "\\n"
  | '\r' => "\\r"
  | '\t' => "\\t"
  | other => if other.toNat < 0x20 then controlEscape other else other.toString

def renderString (text : String) : String :=
  "\"" ++ String.join (text.toList.map escapedChar) ++ "\""

def renderBool (value : Bool) : String := if value then "true" else "false"

mutual

def render : Json → String
  | null => "null"
  | bool value => renderBool value
  | number value => toString value
  | decimal numeral => numeral.text
  | string text => renderString text
  | array items => "[" ++ ",".intercalate (renderItems items) ++ "]"
  | object entries => "\x7b" ++ ",".intercalate (renderEntries entries) ++ "\x7d"

def renderItems : List Json → List String
  | [] => []
  | item :: rest => item.render :: renderItems rest

def renderEntries : List (String × Json) → List String
  | [] => []
  | (key, value) :: rest => (renderString key ++ ":" ++ value.render) :: renderEntries rest

end

def indentation (depth : Nat) : String := String.ofList (List.replicate (2 * depth) ' ')

def indented (opening closing : String) (depth : Nat) (parts : List String) : String :=
  match parts with
  | [] => opening ++ closing
  | _ =>
    let lineStart := "\n" ++ indentation (depth + 1)
    opening ++ lineStart ++ ("," ++ lineStart).intercalate parts ++ "\n" ++ indentation depth
      ++ closing

mutual

def renderIndentedAt (depth : Nat) : Json → String
  | array items => indented "[" "]" depth (indentedItems depth items)
  | object entries => indented "\x7b" "\x7d" depth (indentedEntries depth entries)
  | null => "null"
  | bool value => renderBool value
  | number value => toString value
  | decimal numeral => numeral.text
  | string text => renderString text

def indentedItems (depth : Nat) : List Json → List String
  | [] => []
  | item :: rest => item.renderIndentedAt (depth + 1) :: indentedItems depth rest

def indentedEntries (depth : Nat) : List (String × Json) → List String
  | [] => []
  | (key, value) :: rest =>
    (renderString key ++ ": " ++ value.renderIndentedAt (depth + 1)) :: indentedEntries depth rest

end

def renderIndented (value : Json) : String := value.renderIndentedAt 0

end Inquiry.Json
