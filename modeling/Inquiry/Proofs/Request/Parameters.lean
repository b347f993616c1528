import Inquiry.Request.Validation
import Mathlib.Data.List.Forall2

set_option autoImplicit false

namespace Inquiry

namespace Violation

structure Entry where
  field : String
  code : FailureCode
  message : String

def Entry.toJson (entry : Entry) : Json :=
  .object [("field", .string entry.field), ("code", .string entry.code.wireName),
    ("message", .string entry.message)]

def entry (violation : Violation) : Entry :=
  ⟨violation.parameter.name, violation.code, violation.message⟩

theorem toJson_entry (violation : Violation) : violation.entry.toJson = violation.toJson := rfl

end Violation

namespace Request

variable {σ ι : Type}

/-- A required parameter is given by name, unless there is some positional text; and what is given
for a parameter that lists values is one of them, but for case. -/
structure Meets (request : Request σ ι) (parameter : Parameter) : Prop where
  present : parameter.required = true →
    (∃ value, request.arg? parameter.name = some value) ∨ ∃ text ∈ request.positional, text ≠ ""
  allowed : parameter.allowed ≠ [] → ∀ value, request.arg? parameter.name = some value →
    ∃ choice ∈ parameter.allowed, Text.equalIgnoringCase choice value = true

inductive Reports (request : Request σ ι) (parameter : Parameter) : Violation.Entry → Prop where
  | missing (required : parameter.required = true) (absent : request.arg? parameter.name = none)
      (blank : ∀ text ∈ request.positional, text = "") :
      Reports request parameter
        ⟨parameter.name, .required, Violation.message ⟨parameter, .missing⟩⟩
  | notAllowed {value : String} (given : request.arg? parameter.name = some value)
      (listed : parameter.allowed ≠ [])
      (others : ∀ choice ∈ parameter.allowed, Text.equalIgnoringCase choice value = false) :
      Reports request parameter
        ⟨parameter.name, .invalidValue, Violation.message ⟨parameter, .notAllowed value⟩⟩

variable {request : Request σ ι} {parameter : Parameter} {parameters : List Parameter}

theorem hasPositionalText_eq_true_iff :
    request.hasPositionalText = true ↔ ∃ text ∈ request.positional, text ≠ "" := by
  simp [hasPositionalText]

theorem Reports.not_meets {entry : Violation.Entry} (reports : request.Reports parameter entry) :
    ¬ request.Meets parameter := by
  rintro ⟨present, allowed⟩
  cases reports with
  | missing required absent blank =>
    rcases present required with ⟨value, given⟩ | ⟨text, member, some⟩
    · rw [absent] at given
      cases given
    · exact some (blank text member)
  | notAllowed given listed others =>
    obtain ⟨choice, member, same⟩ := allowed listed _ given
    rw [others choice member] at same
    cases same

-- A parameter that is missing has no value that could be wrong, so there is one check to fail.
theorem violation?_cases (request : Request σ ι) (parameter : Parameter) :
    (request.violation? parameter = none ∧ request.Meets parameter)
      ∨ ∃ violation, request.violation? parameter = some violation
        ∧ request.Reports parameter violation.entry := by
  unfold violation?
  cases given : request.arg? parameter.name with
  | none =>
    by_cases excused : parameter.required = true → request.hasPositionalText = true
    case pos =>
      refine .inl ⟨by simpa using excused, ?_, ?_⟩
      · exact fun required => .inr (hasPositionalText_eq_true_iff.mp (excused required))
      · rintro - value another
        rw [given] at another
        cases another
    case neg =>
      obtain ⟨required, none⟩ := Classical.not_imp.mp excused
      refine .inr ⟨⟨parameter, .missing⟩, by simp [required, none], .missing required given ?_⟩
      rw [hasPositionalText_eq_true_iff] at none
      exact fun text member => not_not.mp fun some => none ⟨text, member, some⟩
  | some value =>
    by_cases fits : parameter.allowed ≠ [] →
        ∃ choice ∈ parameter.allowed, Text.equalIgnoringCase choice value = true
    case pos =>
      refine .inl ⟨?_, fun _ => .inl ⟨value, given⟩, fun listed other another => ?_⟩
      · by_cases listed : parameter.allowed = []
        · simp [listed]
        · have chosen := List.any_eq_true.mpr (fits listed)
          simp [chosen]
      · rw [given] at another
        cases another
        exact fits listed
    case neg =>
      obtain ⟨listed, none⟩ := Classical.not_imp.mp fits
      have others : ∀ choice ∈ parameter.allowed, Text.equalIgnoringCase choice value = false :=
        fun choice member => Bool.eq_false_iff.mpr fun same => none ⟨choice, member, same⟩
      have unchosen := List.any_eq_false.mpr fun choice member =>
        Bool.eq_false_iff.mp (others choice member)
      exact .inr ⟨⟨parameter, .notAllowed value⟩, by simp [listed, unchosen],
        .notAllowed given listed others⟩

theorem violation?_eq_none_iff_meets :
    request.violation? parameter = none ↔ request.Meets parameter := by
  rcases request.violation?_cases parameter with ⟨none, meets⟩ | ⟨violation, some, reports⟩
  · exact iff_of_true none meets
  · exact iff_of_false (by simp [some]) reports.not_meets

instance (request : Request σ ι) (parameter : Parameter) : Decidable (request.Meets parameter) :=
  decidable_of_iff ((request.violation? parameter).isNone = true)
    (Option.isNone_iff_eq_none.trans violation?_eq_none_iff_meets)

theorem validate_eq_ok_iff :
    request.validate parameters = .ok () ↔
      ∀ parameter ∈ parameters, request.violation? parameter = none := by
  rw [← List.filterMap_eq_nil_iff, validate]
  split
  next none => simp [none]
  next first rest some => simp [some]

theorem exists_violations_of_validate {failure : Failure}
    (failed : request.validate parameters = .error failure) :
    ∃ first rest, failure = violationFailure first rest := by
  unfold validate at failed
  split at failed
  next => cases failed
  next first rest _ =>
    cases failed
    exact ⟨first, rest, rfl⟩

theorem reports_filterMap (request : Request σ ι) (parameters : List Parameter) :
    List.Forall₂ (fun parameter violation => request.Reports parameter violation.entry)
      (parameters.filter fun parameter => ¬ request.Meets parameter)
      (parameters.filterMap request.violation?) := by
  induction parameters with
  | nil => exact .nil
  | cons parameter rest ih =>
    rcases request.violation?_cases parameter with ⟨none, meets⟩ | ⟨violation, some, reports⟩
    · rwa [List.filter_cons_of_neg (by simpa using meets), List.filterMap_cons_none none]
    · rw [List.filter_cons_of_pos (by simpa using reports.not_meets), List.filterMap_cons_some some]
      exact .cons reports ih

/-- The checks pass just when each declared parameter is met. Else the failure has an entry for each
one that is not, in the order of the declaration, and the code of the first. -/
theorem validate_complete (request : Request σ ι) (metadata : MutationMetadata) :
    (request.validate metadata.parameters = .ok () ↔
      ∀ parameter ∈ metadata.parameters, request.Meets parameter)
    ∧ ((∃ parameter ∈ metadata.parameters, ¬ request.Meets parameter) → ∃ failure first rest,
      request.validate metadata.parameters = .error failure
        ∧ List.Forall₂ request.Reports
          (metadata.parameters.filter fun parameter => ¬ request.Meets parameter) (first :: rest)
        ∧ failure.details = [("errors", .array ((first :: rest).map Violation.Entry.toJson))]
        ∧ failure.code = first.code
        ∧ failure.message = "; ".intercalate ((first :: rest).map Violation.Entry.message)) := by
  have passes : request.validate metadata.parameters = .ok () ↔
      ∀ parameter ∈ metadata.parameters, request.Meets parameter := by
    simp only [validate_eq_ok_iff, violation?_eq_none_iff_meets]
  refine ⟨passes, fun ⟨parameter, member, broken⟩ => ?_⟩
  have reported := request.reports_filterMap metadata.parameters
  rw [validate]
  split
  next none =>
    have met := violation?_eq_none_iff_meets.mp (List.filterMap_eq_nil_iff.mp none parameter member)
    exact absurd met broken
  next first rest some =>
    rw [some] at reported
    refine ⟨_, first.entry, rest.map Violation.entry, rfl, ?_, ?_, rfl, ?_⟩
    · exact (List.forall₂_map_right_iff (u := first :: rest)).mpr reported
    · simp [violationFailure, Failure.withDetail, Failure.of, Entries.put, Violation.toJson_entry]
    · rw [← List.map_cons, List.map_map]
      rfl

theorem validate_complete_repeated :
    let parameters : List Parameter :=
      [{ Parameter.of "id" "string" "" with required := true },
        { Parameter.of "status" "string" "" with allowed := ["Todo", "Done"] },
        { Parameter.of "title" "string" "" with required := true },
        { Parameter.of "status" "string" "" with required := true, allowed := ["open"] }]
    let request := fun positional : List String =>
      (Request.ofArguments ⟨[], [], [], [], [], [], [], none⟩ "close" positional
        [("title", "a"), ("status", "tODO")] ⟨[]⟩ : Request Unit Unit)
    (request ["", "7"]).validate (parameters.take 3) = .ok ()
      ∧ ∃ failure missing invalid, (request [""]).validate parameters = .error failure
        ∧ (missing.field = "id" ∧ missing.code = .required)
        ∧ (invalid.field = "status" ∧ invalid.code = .invalidValue)
        ∧ failure.details =
          [("errors", .array [Violation.Entry.toJson missing, Violation.Entry.toJson invalid])]
        ∧ failure.code = .required := by
  intro parameters request
  constructor
  · have complete :=
      (request ["", "7"]).validate_complete ⟨⟨"", parameters.take 3, []⟩, false, false⟩
    refine complete.1.mpr ?_
    decide
  · have complete := (request [""]).validate_complete ⟨⟨"", parameters, []⟩, false, false⟩
    obtain ⟨failure, first, rest, failed, reported, details, code, -⟩ :=
      complete.2 ⟨_, List.mem_cons_self, by decide⟩
    have broken : (parameters.filter fun parameter => ¬ (request [""]).Meets parameter) =
        [parameters[0], parameters[3]] := rfl
    rw [broken] at reported
    obtain ⟨missing, later⟩ := List.forall₂_cons.mp reported
    obtain ⟨second, _, invalid, none, rfl⟩ := List.forall₂_cons_left_iff.mp later
    obtain rfl := List.forall₂_nil_left_iff.mp none
    cases missing with
    | notAllowed given => cases given
    | missing =>
      cases invalid with
      | missing _ absent => cases absent
      | notAllowed => exact ⟨failure, _, _, failed, ⟨rfl, rfl⟩, ⟨rfl, rfl⟩, details, code⟩

end Request

end Inquiry
