import Inquiry.Entries

set_option autoImplicit false

namespace Inquiry

-- The text of a number that is written with a fraction or an exponent.
structure Numeral where
  text : String
  nonempty : text ≠ ""
  plain : text.toList.all (fun char => char.isDigit || "+-.eE".toList.contains char) = true
deriving DecidableEq

inductive Json where
  | null
  | bool (value : Bool)
  | number (value : Int)
  | decimal (numeral : Numeral)
  | string (text : String)
  | array (items : List Json)
  | object (entries : List (String × Json))

namespace Json

instance : Inhabited Json := ⟨null⟩

def ofPairs (pairs : List (String × Json)) : Json := object (Entries.ofPairs pairs)

def ofStrings (texts : List String) : Json := array (texts.map string)

def ofNat (value : Nat) : Json := number value

def ofOption (value? : Option Json) : Json := value?.getD null

def textEntry (key text : String) : List (String × Json) :=
  if text.isEmpty then [] else [(key, string text)]

def listEntry (key : String) (items : List Json) : List (String × Json) :=
  if items.isEmpty then [] else [(key, array items)]

end Json

end Inquiry
