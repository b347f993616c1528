import Inquiry.Pipeline.Page
import Inquiry.Query
import Inquiry.Registry.Selector

set_option autoImplicit false

namespace Inquiry

structure Request (σ ι : Type) where
  catalog : Catalog σ ι
  operation : String
  positional : List String
  named : Entries String
  selector : Selector ι
  predicate : Predicate ι
  dryRun : Bool

namespace Request

variable {σ ι : Type}

def dryRunKey : String := "dry_run"

def isTruthy (value : String) : Bool := value == "true" || value == "1" || value == "yes"

def ofArguments (catalog : Catalog σ ι) (operation : String) (positional : List String)
    (params : List (String × String)) (selector : Selector ι) : Request σ ι :=
  let named := Entries.ofPairs params
  ⟨catalog, operation, positional, named, selector, catalog.predicate named, false⟩

def ofRead (catalog : Catalog σ ι) (query : Query) (selector : Selector ι) : Request σ ι :=
  ofArguments catalog query.operation.text query.positionalParams query.namedParams selector

/-- A mutation may ask for a dry run by a parameter, which the handler then does not see. -/
def ofMutation (catalog : Catalog σ ι) (query : Query) (selector : Selector ι)
    (dryRunRequested : Bool) : Request σ ι :=
  let read := ofRead catalog query selector
  if (read.named.get? dryRunKey).any isTruthy then
    let named := read.named.erase dryRunKey
    { read with named, predicate := catalog.predicate named, dryRun := true }
  else { read with dryRun := dryRunRequested }

def positional? (request : Request σ ι) : Option String := request.positional.head?

def requirePositional (request : Request σ ι) (what : String) : Except Failure String :=
  match request.positional? with
  | some value => .ok value
  | none => .error (.missingPositional request.operation what)

def arg? (request : Request σ ι) (name : String) : Option String := request.named.get? name

def argOr (request : Request σ ι) (name fallback : String) : String :=
  (request.arg? name).getD fallback

def requireArg (request : Request σ ι) (name : String) : Except Failure String :=
  match request.arg? name with
  | some value => .ok value
  | none => .error (.missingParam name)

def hasArg (request : Request σ ι) (name : String) : Bool := request.named.has name

def items (request : Request σ ι) : Action σ (List ι) := request.catalog.load

def sortSpecs (request : Request σ ι) : Except Failure (List SortSpec) :=
  SortSpec.ofParams request.named

def page (request : Request σ ι) : Except Failure Page :=
  Page.parse (request.arg? "skip") (request.arg? "take")

def applyPipeline (request : Request σ ι) (items : List ι) : Except Failure (List ι) := do
  let specs ← request.sortSpecs
  let page ← request.page
  let sorted ← request.catalog.sort specs (request.predicate.filter items)
  return page.apply sorted

end Request

abbrev Handler (σ ι : Type) := Request σ ι → Action σ (Output ι)

abbrev Schema (σ ι : Type) := Registry σ ι (Handler σ ι)

end Inquiry
