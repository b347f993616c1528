import Inquiry.Pipeline.Sort
import Inquiry.Proofs.Execution.Actions

set_option autoImplicit false

namespace Inquiry

def SortDirection.IsNamed (text : String) : SortDirection → Prop
  | .ascending => text = "" ∨ Text.asciiFolded text = "asc".toList
  | .descending => Text.asciiFolded text = "desc".toList

theorem SortDirection.parse?_eq_some_iff {text : String} {direction : SortDirection} :
    parse? text = some direction ↔ direction.IsNamed text := by
  have ascending : (text.isEmpty || Text.equalIgnoringAsciiCase text "asc") = true ↔
      IsNamed text ascending := by
    rw [Bool.or_eq_true, String.isEmpty_iff, Text.equalIgnoringAsciiCase_iff]
    rfl
  have descending : Text.equalIgnoringAsciiCase text "desc" = true ↔ IsNamed text descending :=
    Text.equalIgnoringAsciiCase_iff text "desc"
  have apart : IsNamed text .ascending → ¬ IsNamed text .descending := by
    rintro (rfl | first) (second : Text.asciiFolded _ = _)
    · exact absurd second (by decide)
    · exact absurd (first.symm.trans second) (by decide)
  unfold parse?
  split
  next first => cases direction <;> simp [ascending.mp first, apart (ascending.mp first)]
  next notFirst =>
    rw [ascending] at notFirst
    split
    next second => cases direction <;> simp [notFirst, descending.mp second]
    next notSecond =>
      rw [descending] at notSecond
      cases direction <;> simp [notFirst, notSecond]

namespace SortSpec

theorem fieldOf?_eq_some_iff {key field : String} :
    fieldOf? key = some field ↔ key = "sort_" ++ field := by
  constructor
  · intro read
    simp only [fieldOf?] at read
    split at read
    next starts =>
      obtain ⟨rest, written⟩ := List.isPrefixOf_iff_prefix.mp starts
      cases read
      rw [← String.toList_inj, ← written]
      simp
    next => cases read
  · rintro rfl
    have starts : "sort_".toList.isPrefixOf ("sort_" ++ field).toList = true := by
      rw [List.isPrefixOf_iff_prefix, String.toList_append]
      exact List.prefix_append _ _
    simp only [fieldOf?]
    rw [if_pos starts, String.toList_append, List.drop_left, String.ofList_toList]

inductive Directs : List (String × String) → List SortSpec → Prop
  | nil : Directs [] []
  | other {key value : String} {params : List (String × String)} {specs : List SortSpec}
      (apart : ∀ field, key ≠ "sort_" ++ field) (rest : Directs params specs) :
      Directs ((key, value) :: params) specs
  | directive {field value : String} {direction : SortDirection} {params : List (String × String)}
      {specs : List SortSpec} (nonempty : field ≠ "") (named : direction.IsNamed value)
      (rest : Directs params specs) :
      Directs (("sort_" ++ field, value) :: params) (⟨field, direction⟩ :: specs)

inductive Misdirects : String × String → Failure → Prop
  | noField {value : String} : Misdirects ("sort_", value) (.sortWithoutField "sort_")
  | noDirection {field value : String} (nonempty : field ≠ "")
      (unnamed : ∀ direction : SortDirection, ¬ direction.IsNamed value) :
      Misdirects ("sort_" ++ field, value) (.badSortDirection field value)

theorem ofParam_of_other {key : String} (value : String) (apart : ∀ field, key ≠ "sort_" ++ field) :
    ofParam key value = .ok none := by
  unfold ofParam
  split
  next => rfl
  next field read => exact absurd (fieldOf?_eq_some_iff.mp read) (apart field)

theorem ofParam_of_named {field value : String} {direction : SortDirection} (nonempty : field ≠ "")
    (named : direction.IsNamed value) :
    ofParam ("sort_" ++ field) value = .ok (some ⟨field, direction⟩) := by
  unfold ofParam
  rw [fieldOf?_eq_some_iff.mpr rfl, SortDirection.parse?_eq_some_iff.mpr named]
  simp [nonempty]

theorem ofParam_of_misdirects {param : String × String} {failure : Failure}
    (wrong : Misdirects param failure) : ofParam param.1 param.2 = .error failure := by
  cases wrong with
  | noField =>
    have read : fieldOf? "sort_" = some "" := by decide
    simp [ofParam, read]
  | @noDirection field value nonempty unnamed =>
    have unread : SortDirection.parse? value = none :=
      Option.eq_none_iff_forall_ne_some.mpr fun direction read =>
        unnamed direction (SortDirection.parse?_eq_some_iff.mp read)
    unfold ofParam
    simp [fieldOf?_eq_some_iff.mpr, nonempty, unread]

theorem directs_or_misdirects (param : String × String) :
    (∃ specs, Directs [param] specs) ∨ ∃ failure, Misdirects param failure := by
  obtain ⟨key, value⟩ := param
  by_cases meant : ∃ field, key = "sort_" ++ field
  · obtain ⟨field, rfl⟩ := meant
    by_cases empty : field = ""
    · subst empty
      exact .inr ⟨_, .noField⟩
    · by_cases named : ∃ direction : SortDirection, direction.IsNamed value
      · obtain ⟨direction, named⟩ := named
        exact .inl ⟨_, .directive empty named .nil⟩
      · exact .inr ⟨_, .noDirection empty (not_exists.mp named)⟩
  · exact .inl ⟨[], .other (not_exists.mp meant) .nil⟩

theorem Directs.cons {param : String × String} {params : List (String × String)}
    {first later : List SortSpec} (head : Directs [param] first) (rest : Directs params later) :
    Directs (param :: params) (first ++ later) := by
  rcases head with _ | ⟨apart, ⟨⟩⟩ | ⟨nonempty, named, ⟨⟩⟩
  · exact .other apart rest
  · exact .directive nonempty named rest

theorem ofParams_of_directs {params : List (String × String)} {specs : List SortSpec}
    (directs : Directs params specs) : ofParams params = .ok specs := by
  induction directs with
  | nil => rfl
  | other apart _ ih =>
    rw [ofParams, ofParam_of_other _ apart, ih]
    rfl
  | directive nonempty named _ ih =>
    rw [ofParams, ofParam_of_named nonempty named, ih]
    rfl

theorem ofParams_of_misdirects {before after : List (String × String)} {param : String × String}
    {specs : List SortSpec} {failure : Failure} (directs : Directs before specs)
    (wrong : Misdirects param failure) : ofParams (before ++ param :: after) = .error failure := by
  induction directs with
  | nil =>
    rw [List.nil_append, ofParams, ofParam_of_misdirects wrong]
    rfl
  | other apart _ ih =>
    rw [List.cons_append, ofParams, ofParam_of_other _ apart, ih]
    rfl
  | directive nonempty named _ ih =>
    rw [List.cons_append, ofParams, ofParam_of_named nonempty named, ih]
    rfl

def FirstMisdirects (params : List (String × String)) (failure : Failure) : Prop :=
  ∃ before param after specs, params = before ++ param :: after ∧ Directs before specs
    ∧ Misdirects param failure

theorem directs_or_firstMisdirects (params : List (String × String)) :
    (∃ specs, Directs params specs) ∨ ∃ failure, FirstMisdirects params failure := by
  induction params with
  | nil => exact .inl ⟨[], .nil⟩
  | cons param rest ih =>
    rcases directs_or_misdirects param with ⟨first, head⟩ | ⟨failure, wrong⟩
    · rcases ih with ⟨later, directs⟩ | ⟨failure, before, other, after, specs, rfl, directs, wrong⟩
      · exact .inl ⟨_, head.cons directs⟩
      · exact .inr ⟨failure, param :: before, other, after, _, rfl, head.cons directs, wrong⟩
    · exact .inr ⟨failure, [], param, rest, [], rfl, .nil, wrong⟩

theorem Directs.given {params : List (String × String)} {specs : List SortSpec}
    (directs : Directs params specs) {spec : SortSpec} (member : spec ∈ specs) :
    ∃ value, ("sort_" ++ spec.field, value) ∈ params := by
  induction directs with
  | nil => cases member
  | other _ _ ih =>
    obtain ⟨value, given⟩ := ih member
    exact ⟨value, List.mem_cons_of_mem _ given⟩
  | directive _ _ _ ih =>
    rcases List.mem_cons.mp member with rfl | later
    · exact ⟨_, List.mem_cons_self⟩
    · obtain ⟨value, given⟩ := ih later
      exact ⟨value, List.mem_cons_of_mem _ given⟩

theorem Directs.mem_of_given {params : List (String × String)} {specs : List SortSpec}
    (directs : Directs params specs) {field value : String}
    (given : ("sort_" ++ field, value) ∈ params) :
    field ≠ "" ∧ ∃ direction : SortDirection, direction.IsNamed value
      ∧ ⟨field, direction⟩ ∈ specs := by
  induction directs with
  | nil => cases given
  | other apart _ ih =>
    rcases List.mem_cons.mp given with same | later
    · exact absurd (congrArg Prod.fst same).symm (apart field)
    · exact ih later
  | directive nonempty named _ ih =>
    rcases List.mem_cons.mp given with same | later
    · obtain ⟨key, rfl⟩ := Prod.mk.inj same
      cases (String.append_right_inj _).mp key
      exact ⟨nonempty, _, named, List.mem_cons_self⟩
    · obtain ⟨nonempty, direction, named, member⟩ := ih later
      exact ⟨nonempty, direction, named, List.mem_cons_of_mem _ member⟩

theorem ofParams_eq_ok_iff {params : List (String × String)} {specs : List SortSpec} :
    ofParams params = .ok specs ↔ Directs params specs := by
  refine ⟨fun ran => ?_, ofParams_of_directs⟩
  rcases directs_or_firstMisdirects params with
    ⟨others, directs⟩ | ⟨failure, before, param, after, others, rfl, directs, wrong⟩
  · cases ran.symm.trans (ofParams_of_directs directs)
    exact directs
  · cases ran.symm.trans (ofParams_of_misdirects directs wrong)

theorem ofParams_eq_error_iff {params : List (String × String)} {failure : Failure} :
    ofParams params = .error failure ↔ FirstMisdirects params failure := by
  constructor
  · intro failed
    rcases directs_or_firstMisdirects params with
      ⟨specs, directs⟩ | ⟨other, before, param, after, specs, rfl, directs, wrong⟩
    · cases failed.symm.trans (ofParams_of_directs directs)
    · cases failed.symm.trans (ofParams_of_misdirects directs wrong)
      exact ⟨before, param, after, specs, rfl, directs, wrong⟩
  · rintro ⟨before, param, after, specs, rfl, directs, wrong⟩
    exact ofParams_of_misdirects directs wrong

end SortSpec

end Inquiry
