import Inquiry.Proofs.Query.Call
import Inquiry.Token

set_option autoImplicit false

namespace Inquiry.Grammar

inductive ValueOf : TokenKind → Value → Prop where
  | word (text : String) : ValueOf (.identifier text) (.word text)
  | literal (text : String) : ValueOf (.literal text) (.literal text)

inductive ArgumentOf : List TokenKind → Argument → Prop where
  | positional {kind : TokenKind} {value : Value} (valueOf : ValueOf kind value) :
    ArgumentOf [kind] ⟨none, value⟩
  | keyed (key : String) {kind : TokenKind} {value : Value} (valueOf : ValueOf kind value) :
    ArgumentOf [.identifier key, .equals, kind] ⟨some key, value⟩

inductive MoreArguments : List TokenKind → List Argument → Prop where
  | nil : MoreArguments [] []
  | cons {kinds rest : List TokenKind} {argument : Argument} {arguments : List Argument}
    (first : ArgumentOf kinds argument) (more : MoreArguments rest arguments) :
    MoreArguments (.comma :: kinds ++ rest) (argument :: arguments)

inductive ArgumentsOf : List TokenKind → List Argument → Prop where
  | none : ArgumentsOf [] []
  | some {kinds rest : List TokenKind} {argument : Argument} {arguments : List Argument}
    (first : ArgumentOf kinds argument) (more : MoreArguments rest arguments) :
    ArgumentsOf (kinds ++ rest) (argument :: arguments)

inductive NamesOf : List TokenKind → List String → Prop where
  | nil : NamesOf [] []
  | comma {kinds : List TokenKind} {names : List String} (more : NamesOf kinds names) :
    NamesOf (.comma :: kinds) names
  | name (text : String) {kinds : List TokenKind} {names : List String}
    (more : NamesOf kinds names) : NamesOf (.identifier text :: kinds) (text :: names)

inductive FieldsOf : List TokenKind → Option (List String) → Prop where
  | absent : FieldsOf [] none
  | listed (commas : Nat) (text : String) {kinds : List TokenKind} {names : List String}
    (more : NamesOf kinds names) :
    FieldsOf (.openBrace :: List.replicate commas .comma ++ .identifier text :: kinds
      ++ [.closeBrace]) (some (text :: names))

inductive QueryOf : List TokenKind → Call → Prop where
  | call (operation : String) {argumentKinds fieldKinds : List TokenKind}
    {arguments : List Argument} {fields : Option (List String)}
    (argumentsOf : ArgumentsOf argumentKinds arguments) (fieldsOf : FieldsOf fieldKinds fields) :
    QueryOf (.identifier operation :: .openParen :: argumentKinds ++ .closeParen :: fieldKinds)
      ⟨operation, arguments, fields⟩

def semicolons (count : Nat) : List TokenKind := List.replicate count .semicolon

@[simp] theorem semicolons_zero : semicolons 0 = [] := rfl

@[simp] theorem semicolons_append (first second : Nat) :
    semicolons first ++ semicolons second = semicolons (first + second) := by
  simp [semicolons]

inductive MoreQueries : List TokenKind → List Call → Prop where
  | nil : MoreQueries [] []
  | cons (extra : Nat) {kinds rest : List TokenKind} {call : Call} {calls : List Call}
    (first : QueryOf kinds call) (more : MoreQueries rest calls) :
    MoreQueries (semicolons (extra + 1) ++ kinds ++ rest) (call :: calls)

inductive BatchOf : List TokenKind → List Call → Prop where
  | queries (before after : Nat) {kinds rest : List TokenKind} {call : Call} {calls : List Call}
    (first : QueryOf kinds call) (more : MoreQueries rest calls) :
    BatchOf (semicolons before ++ kinds ++ rest ++ semicolons after) (call :: calls)

theorem MoreArguments.snoc {kinds last : List TokenKind} {arguments : List Argument}
    {argument : Argument} (more : MoreArguments kinds arguments)
    (lastOf : ArgumentOf last argument) :
    MoreArguments (kinds ++ .comma :: last) (arguments ++ [argument]) := by
  induction more with
  | nil => simpa using MoreArguments.cons lastOf .nil
  | cons first _ ih => simpa using MoreArguments.cons first ih

theorem ArgumentsOf.snoc {kinds last : List TokenKind} {arguments : List Argument}
    {argument : Argument} (argumentsOf : ArgumentsOf kinds arguments) (nonempty : arguments ≠ [])
    (lastOf : ArgumentOf last argument) :
    ArgumentsOf (kinds ++ .comma :: last) (arguments ++ [argument]) := by
  cases argumentsOf with
  | none => exact absurd rfl nonempty
  | some first more => simpa using ArgumentsOf.some first (more.snoc lastOf)

theorem ArgumentsOf.one {kinds : List TokenKind} {argument : Argument}
    (argumentOf : ArgumentOf kinds argument) : ArgumentsOf kinds [argument] := by
  simpa using ArgumentsOf.some argumentOf .nil

theorem NamesOf.append {first second : List TokenKind} {names more : List String}
    (firstOf : NamesOf first names) (secondOf : NamesOf second more) :
    NamesOf (first ++ second) (names ++ more) := by
  induction firstOf with
  | nil => exact secondOf
  | comma _ ih => exact .comma ih
  | name text _ ih => exact .name text ih

theorem NamesOf.commas (count : Nat) : NamesOf (List.replicate count .comma) [] := by
  induction count with
  | zero => exact .nil
  | succ count ih => exact .comma ih

theorem NamesOf.split {kinds : List TokenKind} {text : String} {names : List String}
    (namesOf : NamesOf kinds (text :: names)) :
    ∃ commas rest, kinds = List.replicate commas .comma ++ .identifier text :: rest
      ∧ NamesOf rest names := by
  generalize whole : text :: names = all at namesOf
  induction namesOf with
  | nil => cases whole
  | comma _ ih =>
    obtain ⟨commas, rest, rfl, more⟩ := ih whole
    exact ⟨commas + 1, rest, rfl, more⟩
  | name _ more _ =>
    cases whole
    exact ⟨0, _, rfl, more⟩

theorem FieldsOf.of_names {kinds : List TokenKind} {names : List String}
    (namesOf : NamesOf kinds names) (nonempty : names ≠ []) :
    FieldsOf (.openBrace :: kinds ++ [.closeBrace]) (some names) := by
  obtain ⟨text, rest, rfl⟩ := List.exists_cons_of_ne_nil nonempty
  obtain ⟨commas, tail, rfl, more⟩ := namesOf.split
  simpa using FieldsOf.listed commas text more

theorem MoreQueries.snoc {kinds last : List TokenKind} {calls : List Call} {call : Call}
    (more : MoreQueries kinds calls) (extra : Nat) (lastOf : QueryOf last call) :
    MoreQueries (kinds ++ semicolons (extra + 1) ++ last) (calls ++ [call]) := by
  induction more with
  | nil => simpa using MoreQueries.cons extra lastOf .nil
  | cons before first _ ih => simpa using MoreQueries.cons before first ih

theorem MoreQueries.append {first second : List TokenKind} {calls more : List Call}
    (firstOf : MoreQueries first calls) (secondOf : MoreQueries second more) :
    MoreQueries (first ++ second) (calls ++ more) := by
  induction firstOf with
  | nil => exact secondOf
  | cons extra query _ ih => simpa using MoreQueries.cons extra query ih

theorem QueryOf.select {kinds fieldKinds : List TokenKind} {call : Call}
    {fields : Option (List String)} (queryOf : QueryOf kinds call) (bare : call.fields = none)
    (fieldsOf : FieldsOf fieldKinds fields) :
    QueryOf (kinds ++ fieldKinds) { call with fields } := by
  cases queryOf with
  | call operation argumentsOf noFields =>
    cases noFields with
    | absent => simpa using QueryOf.call operation argumentsOf fieldsOf
    | listed => cases bare

theorem BatchOf.ne_nil {kinds : List TokenKind} {calls : List Call}
    (batchOf : BatchOf kinds calls) : calls ≠ [] := by
  cases batchOf
  exact List.cons_ne_nil _ _

theorem BatchOf.join {first second : List TokenKind} {calls more : List Call}
    (firstOf : BatchOf first calls) (secondOf : BatchOf second more) :
    BatchOf (first ++ .semicolon :: second) (calls ++ more) := by
  cases firstOf with
  | queries before after query queries =>
  cases secondOf with
  | queries leading trailing next others =>
    have joined := queries.append (.cons (after + leading) next others)
    have whole := BatchOf.queries before trailing query joined
    have gap : semicolons after ++ .semicolon :: semicolons leading
        = semicolons (after + leading + 1) := by
      rw [show TokenKind.semicolon :: semicolons leading = semicolons (leading + 1) from rfl,
        semicolons_append, Nat.add_assoc]
    simpa [← gap] using whole

variable {valid : String → Prop}

theorem ArgumentOf.wellFormed {kinds : List TokenKind} {argument : Argument}
    (argumentOf : ArgumentOf kinds argument)
    (names : ∀ text, .identifier text ∈ kinds → valid text) : argument.WellFormed valid := by
  cases argumentOf with
  | positional valueOf =>
    cases valueOf with
    | word text => exact ⟨by simp, by rintro _ ⟨⟩; exact names text (by simp)⟩
    | literal text => exact ⟨by simp, by simp⟩
  | keyed key valueOf =>
    have keyValid := names key (by simp)
    cases valueOf with
    | word text => exact ⟨by simpa using keyValid, by rintro _ ⟨⟩; exact names text (by simp)⟩
    | literal text => exact ⟨by simpa using keyValid, by simp⟩

theorem MoreArguments.wellFormed {kinds : List TokenKind} {arguments : List Argument}
    (more : MoreArguments kinds arguments) (names : ∀ text, .identifier text ∈ kinds → valid text) :
    ∀ argument ∈ arguments, argument.WellFormed valid := by
  induction more with
  | nil => simp
  | cons first _ ih =>
    rw [List.forall_mem_cons]
    exact ⟨first.wellFormed fun text member => names text (by simp [member]),
      ih fun text member => names text (by simp [member])⟩

theorem ArgumentsOf.wellFormed {kinds : List TokenKind} {arguments : List Argument}
    (argumentsOf : ArgumentsOf kinds arguments)
    (names : ∀ text, .identifier text ∈ kinds → valid text) :
    ∀ argument ∈ arguments, argument.WellFormed valid := by
  cases argumentsOf with
  | none => simp
  | some first more =>
    rw [List.forall_mem_cons]
    exact ⟨first.wellFormed fun text member => names text (by simp [member]),
      more.wellFormed fun text member => names text (by simp [member])⟩

theorem NamesOf.all_valid {kinds : List TokenKind} {texts : List String}
    (namesOf : NamesOf kinds texts) (names : ∀ text, .identifier text ∈ kinds → valid text) :
    ∀ text ∈ texts, valid text := by
  induction namesOf with
  | nil => simp
  | comma _ ih => exact ih fun text member => names text (by simp [member])
  | name text _ ih =>
    rw [List.forall_mem_cons]
    exact ⟨names text (by simp), ih fun text member => names text (by simp [member])⟩

theorem FieldsOf.ne_some_nil {kinds : List TokenKind} {fields : Option (List String)}
    (fieldsOf : FieldsOf kinds fields) : fields ≠ some [] := by
  cases fieldsOf <;> simp

theorem FieldsOf.all_valid {kinds : List TokenKind} {fields : Option (List String)}
    (fieldsOf : FieldsOf kinds fields) (names : ∀ text, .identifier text ∈ kinds → valid text) :
    ∀ text ∈ fields.getD [], valid text := by
  cases fieldsOf with
  | absent => simp
  | listed commas text more =>
    rw [Option.getD_some, List.forall_mem_cons]
    exact ⟨names text (by simp), more.all_valid fun text member => names text (by simp [member])⟩

theorem QueryOf.wellFormed {kinds : List TokenKind} {call : Call} (queryOf : QueryOf kinds call)
    (names : ∀ text, .identifier text ∈ kinds → valid text) : call.WellFormed valid := by
  cases queryOf with
  | call operation argumentsOf fieldsOf =>
    exact
      { operation := names operation (by simp)
        arguments := argumentsOf.wellFormed fun text member => names text (by simp [member])
        nonempty := fieldsOf.ne_some_nil
        fields := fieldsOf.all_valid fun text member => names text (by simp [member]) }

theorem MoreQueries.wellFormed {kinds : List TokenKind} {calls : List Call}
    (more : MoreQueries kinds calls) (names : ∀ text, .identifier text ∈ kinds → valid text) :
    ∀ call ∈ calls, call.WellFormed valid := by
  induction more with
  | nil => simp
  | cons extra first _ ih =>
    rw [List.forall_mem_cons]
    exact ⟨first.wellFormed fun text member => names text (by simp [member]),
      ih fun text member => names text (by simp [member])⟩

theorem BatchOf.wellFormed {kinds : List TokenKind} {calls : List Call}
    (batchOf : BatchOf kinds calls) (names : ∀ text, .identifier text ∈ kinds → valid text) :
    ∀ call ∈ calls, call.WellFormed valid := by
  cases batchOf with
  | queries before after first more =>
    rw [List.forall_mem_cons]
    exact ⟨first.wellFormed fun text member => names text (by simp [member]),
      more.wellFormed fun text member => names text (by simp [member])⟩

end Inquiry.Grammar
