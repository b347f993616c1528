import Inquiry.Proofs.Query.Recognition
import Inquiry.Proofs.Token.Quotation

set_option autoImplicit false

namespace Inquiry

open Grammar Token

def Value.write : Value → List Char
  | .word text => text.toList
  | .literal text => '"' :: escape text.toList ++ ['"']

def Argument.write (argument : Argument) : List Char :=
  match argument.key with
  | some key => key.toList ++ '=' :: argument.value.write
  | none => argument.value.write

namespace Call

def writeArguments (arguments : List Argument) : List Char :=
  [','].intercalate (arguments.map Argument.write)

def writeFields : Option (List String) → List Char
  | some names => '{' :: [' '].intercalate (names.map String.toList) ++ ['}']
  | none => []

def write (call : Call) : List Char :=
  call.operation.toList ++ '(' :: writeArguments call.arguments ++ ')' :: writeFields call.fields

end Call

def writeCalls (calls : List Call) : String :=
  String.ofList ([';'].intercalate (calls.map Call.write))

def Value.kind : Value → TokenKind
  | .word text => .identifier text
  | .literal text => .literal text

def Argument.kinds (argument : Argument) : List TokenKind :=
  match argument.key with
  | some key => [.identifier key, .equals, argument.value.kind]
  | none => [argument.value.kind]

namespace Call

def fieldKinds : Option (List String) → List TokenKind
  | some names => .openBrace :: names.map TokenKind.identifier ++ [.closeBrace]
  | none => []

def kinds (call : Call) : List TokenKind :=
  .identifier call.operation :: .openParen ::
    [.comma].intercalate (call.arguments.map Argument.kinds) ++
    .closeParen :: fieldKinds call.fields

end Call

namespace Token

theorem kinds_value {value : Value} (name : ∀ text, value = .word text → IsName text)
    {more : List Char} (separates : Separates more) :
    kinds (value.write ++ more) = value.kind :: kinds more := by
  cases value with
  | word text => exact kinds_identifier (name text rfl) separates
  | literal text => simpa [Value.write, Value.kind] using kinds_literal text more

theorem kinds_argument {argument : Argument} (wellFormed : argument.WellFormed IsName)
    {more : List Char} (separates : Separates more) :
    kinds (argument.write ++ more) = argument.kinds ++ kinds more := by
  obtain ⟨key, value⟩ := argument
  have read := kinds_value wellFormed.word separates
  cases key with
  | none => exact read
  | some key =>
    have equals : kinds ('=' :: (value.write ++ more)) = .equals :: kinds (value.write ++ more) :=
      kinds_lexeme _ rfl
    have name := wellFormed.key key rfl
    simp only [Argument.write, Argument.kinds, List.append_assoc, List.cons_append]
    rw [kinds_identifier name (separates_cons.mpr rfl), equals, read]
    rfl

theorem kinds_intercalate {α : Type} {write : α → List Char} {spell : α → List TokenKind}
    {separator : Char} {between : List TokenKind}
    (separates : continuesIdentifier separator = false)
    (separatorRead : ∀ rest, kinds (separator :: rest) = between ++ kinds rest) {items : List α}
    (each : ∀ item ∈ items, ∀ more, Separates more →
      kinds (write item ++ more) = spell item ++ kinds more)
    {more : List Char} (ended : Separates more) :
    kinds ([separator].intercalate (items.map write) ++ more) =
      between.intercalate (items.map spell) ++ kinds more := by
  induction items with
  | nil => rfl
  | cons item rest ih =>
    obtain ⟨itemRead, restRead⟩ := List.forall_mem_cons.mp each
    cases rest with
    | nil => simpa using itemRead more ended
    | cons second others =>
      have later := ih restRead
      have continues : Separates
          (separator :: ([separator].intercalate ((second :: others).map write) ++ more)) :=
        separates_cons.mpr separates
      have first := itemRead _ continues
      rw [separatorRead, later] at first
      simpa [List.intercalate_cons_cons] using first

theorem intercalate_nil_singletons {α β : Type} (change : α → β) (items : List α) :
    ([] : List β).intercalate (items.map fun item => [change item]) = items.map change := by
  induction items with
  | nil => rfl
  | cons item rest ih =>
    cases rest with
    | nil => simp
    | cons second others =>
      simp only [List.map_cons] at ih
      simp [List.intercalate_cons_cons, ih]

theorem kinds_arguments {arguments : List Argument}
    (wellFormed : ∀ argument ∈ arguments, argument.WellFormed IsName) (more : List Char) :
    kinds (Call.writeArguments arguments ++ ')' :: more) =
      [.comma].intercalate (arguments.map Argument.kinds) ++ .closeParen :: kinds more := by
  have comma : ∀ rest, kinds (',' :: rest) = [.comma] ++ kinds rest :=
    fun rest => kinds_lexeme rest rfl
  have closing : kinds (')' :: more) = .closeParen :: kinds more := kinds_lexeme _ rfl
  have row := kinds_intercalate rfl comma
    (fun argument member _ => kinds_argument (wellFormed argument member))
    (separates_cons.mpr rfl : Separates (')' :: more))
  rwa [closing] at row

theorem kinds_names {names : List String} (valid : ∀ name ∈ names, IsName name)
    (more : List Char) :
    kinds ([' '].intercalate (names.map String.toList) ++ '}' :: more) =
      names.map TokenKind.identifier ++ .closeBrace :: kinds more := by
  have blank : ∀ rest, kinds (' ' :: rest) = [] ++ kinds rest := fun rest => kinds_blank rest rfl
  have closing : kinds ('}' :: more) = .closeBrace :: kinds more := kinds_lexeme _ rfl
  have each : ∀ name ∈ names, ∀ rest, Separates rest →
      kinds (name.toList ++ rest) = [.identifier name] ++ kinds rest :=
    fun name member _ => kinds_identifier (valid name member)
  have row := kinds_intercalate rfl blank each
    (separates_cons.mpr rfl : Separates ('}' :: more))
  rwa [closing, intercalate_nil_singletons] at row

-- A call ends in a bracket, so any text may follow it.
theorem kinds_call {call : Call} (wellFormed : call.WellFormed IsName) (more : List Char) :
    kinds (call.write ++ more) = call.kinds ++ kinds more := by
  obtain ⟨operation, arguments, fields⟩ := call
  have opened : ∀ rest, kinds ('(' :: rest) = .openParen :: kinds rest := fun rest =>
    kinds_lexeme rest rfl
  have fieldsRead : kinds (Call.writeFields fields ++ more) =
      Call.fieldKinds fields ++ kinds more := by
    cases fields with
    | none => rfl
    | some names =>
      have brace : ∀ rest, kinds ('{' :: rest) = .openBrace :: kinds rest := fun rest =>
        kinds_lexeme rest rfl
      have valid : ∀ name ∈ names, IsName name := wellFormed.fields
      simpa [Call.writeFields, Call.fieldKinds, brace] using kinds_names valid more
  have argumentsRead := kinds_arguments wellFormed.arguments (Call.writeFields fields ++ more)
  have opens : Separates
      ('(' :: (Call.writeArguments arguments ++ ')' :: (Call.writeFields fields ++ more))) :=
    separates_cons.mpr rfl
  have named := kinds_identifier wellFormed.operation opens
  simpa [Call.write, Call.kinds, opened, argumentsRead, fieldsRead] using named

theorem kinds_calls {calls : List Call} (wellFormed : ∀ call ∈ calls, call.WellFormed IsName) :
    kinds ([';'].intercalate (calls.map Call.write)) =
      [.semicolon].intercalate (calls.map Call.kinds) := by
  have semicolon : ∀ rest, kinds (';' :: rest) = [.semicolon] ++ kinds rest :=
    fun rest => kinds_lexeme rest rfl
  have row := kinds_intercalate rfl semicolon
    (fun call member more _ => kinds_call (wellFormed call member) more) separates_nil
  rwa [List.append_nil, kinds_nil, List.append_nil] at row

end Token

theorem Value.valueOf_kind (value : Value) : ValueOf value.kind value := by
  cases value with
  | word text => exact .word text
  | literal text => exact .literal text

theorem Argument.argumentOf_kinds (argument : Argument) : ArgumentOf argument.kinds argument := by
  obtain ⟨_ | key, value⟩ := argument
  · exact .positional value.valueOf_kind
  · exact .keyed key value.valueOf_kind

theorem argumentsOf_kinds (arguments : List Argument) :
    ArgumentsOf ([.comma].intercalate (arguments.map Argument.kinds)) arguments := by
  cases arguments with
  | nil => exact .none
  | cons first rest =>
    -- The commas belong to the arguments after the first, so these are derived apart.
    suffices more : ∃ kinds, MoreArguments kinds rest ∧
        [.comma].intercalate ((first :: rest).map Argument.kinds) = first.kinds ++ kinds by
      obtain ⟨kinds, more, whole⟩ := more
      rw [whole]
      exact .some first.argumentOf_kinds more
    induction rest generalizing first with
    | nil => exact ⟨[], .nil, by simp⟩
    | cons second others ih =>
      obtain ⟨kinds, more, whole⟩ := ih second
      simp only [List.map_cons] at whole
      refine ⟨.comma :: second.kinds ++ kinds, .cons second.argumentOf_kinds more, ?_⟩
      simp [List.intercalate_cons_cons, whole]

theorem namesOf_identifiers (names : List String) :
    NamesOf (names.map TokenKind.identifier) names := by
  induction names with
  | nil => exact .nil
  | cons name rest ih => exact .name name ih

theorem Call.queryOf_kinds {call : Call} (nonempty : call.fields ≠ some []) :
    QueryOf call.kinds call := by
  obtain ⟨operation, arguments, fields⟩ := call
  refine .call operation (argumentsOf_kinds arguments) ?_
  cases fields with
  | none => exact .absent
  | some names => exact .of_names (namesOf_identifiers names) (by simpa using nonempty)

theorem batchOf_kinds {calls : List Call} (nonempty : calls ≠ [])
    (fields : ∀ call ∈ calls, call.fields ≠ some []) :
    BatchOf ([.semicolon].intercalate (calls.map Call.kinds)) calls := by
  induction calls with
  | nil => exact absurd rfl nonempty
  | cons call rest ih =>
    obtain ⟨callFields, restFields⟩ := List.forall_mem_cons.mp fields
    have one : BatchOf call.kinds [call] := by
      simpa using BatchOf.queries 0 0 (call.queryOf_kinds callFields) .nil
    cases rest with
    | nil => simpa using one
    | cons second others =>
      simpa [List.intercalate_cons_cons] using one.join (ih (by simp) restFields)

namespace Batch

theorem parse_writeCalls {calls : List Call} (nonempty : calls ≠ [])
    (wellFormed : ∀ call ∈ calls, call.WellFormed IsName) :
    ∃ batch, parse (writeCalls calls) = .ok batch ∧ batch.calls = calls := by
  apply parse_of_batchOf
  rw [writeCalls, String.toList_ofList, kinds_calls wellFormed]
  exact batchOf_kinds nonempty fun call member => (wellFormed call member).nonempty

theorem calls_wellFormed {source : String} {batch : Batch} (parsed : parse source = .ok batch) :
    ∀ call ∈ batch.calls, call.WellFormed IsName :=
  (batchOf_of_parse parsed).wellFormed fun _ member => isName_of_mem_kinds member

theorem parse_writeCalls_round_trip :
    (∀ calls : List Call, calls ≠ [] → (∀ call ∈ calls, call.WellFormed IsName) →
      ∃ batch, parse (writeCalls calls) = .ok batch ∧ batch.calls = calls)
    ∧ ∀ source batch, parse source = .ok batch →
      batch.calls ≠ [] ∧ (∀ call ∈ batch.calls, call.WellFormed IsName)
        ∧ ∃ again, parse (writeCalls batch.calls) = .ok again ∧ again.calls = batch.calls := by
  refine ⟨fun calls => parse_writeCalls, fun source batch parsed => ?_⟩
  have nonempty := (batchOf_of_parse parsed).ne_nil
  have wellFormed := calls_wellFormed parsed
  exact ⟨nonempty, wellFormed, parse_writeCalls nonempty wellFormed⟩

theorem parse_writeCalls_round_trip_quotes :
    let calls : List Call := [
      ⟨"set", [⟨some "note", .literal "say \"é\" \\"⟩, ⟨none, .word "0-a"⟩], some ["id", "id"]⟩,
      ⟨"7", [⟨none, .literal ""⟩], none⟩]
    (calls ≠ [] ∧ (∀ call ∈ calls, call.WellFormed IsName)
        ∧ ∃ batch, parse (writeCalls calls) = .ok batch ∧ batch.calls = calls)
      ∧ ∃ batch again, parse ";get ( a , k = \"\\n\" ) \x7b , f \x7d;" = .ok batch
        ∧ parse (writeCalls batch.calls) = .ok again ∧ again.calls = batch.calls := by
  intro calls
  obtain ⟨written, read⟩ := parse_writeCalls_round_trip
  have nonempty : calls ≠ [] := by decide
  have wellFormed : ∀ call ∈ calls, call.WellFormed IsName := by decide +kernel
  obtain ⟨batch, parsed, _⟩ : ∃ batch,
      parse ";get ( a , k = \"\\n\" ) \x7b , f \x7d;" = .ok batch ∧ batch.calls =
        [⟨"get", [⟨none, .word "a"⟩, ⟨some "k", .literal "\n"⟩], some ["f"]⟩] :=
    parse_of_calls (by decide +kernel)
  obtain ⟨_, _, again, parsedAgain, same⟩ := read _ batch parsed
  exact ⟨⟨nonempty, wellFormed, written calls nonempty wellFormed⟩,
    batch, again, parsed, parsedAgain, same⟩

end Batch

end Inquiry
