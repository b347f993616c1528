
set_option autoImplicit false

namespace Inquiry.Text

/-- Counts are below this bound, the number of values of 64 bits. -/
def countBound : Nat := 18446744073709551616

def decimalValue? (digits : List Char) : Option Nat :=
  digits.foldlM
    (fun value digit => if digit.isDigit then some (value * 10 + (digit.toNat - 48)) else none) 0

def withoutPlus : List Char → List Char
  | '+' :: digits => digits
  | digits => digits

def count? (text : String) : Option Nat :=
  match withoutPlus text.toList with
  | [] => none
  | digits => (decimalValue? digits).filter (· < countBound)

end Inquiry.Text
