import Inquiry.Text.Lowercase

set_option autoImplicit false

namespace Inquiry

structure Predicate (ι : Type) where
  conditions : List ((ι → String) × String)

namespace Predicate

variable {ι : Type}

def isMatchAll (predicate : Predicate ι) : Bool := predicate.conditions.isEmpty

def accepts (predicate : Predicate ι) (item : ι) : Bool :=
  predicate.conditions.all fun (read, expected) => Text.equalIgnoringCase (read item) expected

def filter (predicate : Predicate ι) (items : List ι) : List ι := items.filter predicate.accepts

def count (predicate : Predicate ι) (items : List ι) : Nat := items.countP predicate.accepts

end Predicate

def distinctValues {ι : Type} (read : ι → String) (items : List ι) : List String :=
  (items.map read).eraseDups

end Inquiry
