import Inquiry.Source.Position

set_option autoImplicit false

namespace Inquiry

structure Name where
  text : String
  span : Span
deriving DecidableEq

inductive Value where
  | word (text : String)
  | literal (text : String)
deriving DecidableEq

def Value.text : Value → String
  | word text => text
  | literal text => text

structure Param where
  /-- Absent for a positional parameter. -/
  key : Option Name
  value : Value
  span : Span
deriving DecidableEq

structure FieldSpec where
  names : List Name
  span : Span
deriving DecidableEq

structure Query where
  operation : Name
  params : List Param
  fields : Option FieldSpec
  span : Span
deriving DecidableEq

namespace Query

def namedParams (query : Query) : List (String × String) :=
  query.params.filterMap fun param => param.key.map fun key => (key.text, param.value.text)

def positionalParams (query : Query) : List String :=
  (query.params.filter fun param => param.key.isNone).map fun param => param.value.text

/-- The value of the last parameter with a key. -/
def namedParam? (query : Query) (key : String) : Option String :=
  ((query.namedParams.filter fun param => param.1 = key).map Prod.snd).getLast?

def requestedFields (query : Query) : List String :=
  match query.fields with
  | some spec => spec.names.map Name.text
  | none => []

end Query

structure Batch where
  queries : List Query
  span : Span
deriving DecidableEq

namespace Batch

def length (batch : Batch) : Nat := batch.queries.length

def isEmpty (batch : Batch) : Bool := batch.queries.isEmpty

def isSingle (batch : Batch) : Bool := batch.length == 1

end Batch

end Inquiry
