import Inquiry.Proofs.Registry.Document
import Inquiry.Proofs.Request.Selection

set_option autoImplicit false

namespace Inquiry

def fieldsOf (presets : Entries (List String)) (name : String) : List String :=
  (presets.get? name).getD [name]

theorem eq_fieldsOf_of_ok {ε : Type} {presets : Entries (List String)} {name : String}
    {isField : Bool} {error : ε} {fields : List String}
    (expanded : (match presets.get? name with
      | some others => .ok others
      | none => if isField then .ok [name] else .error error) = Except.ok fields) :
    fields = fieldsOf presets name := by
  unfold fieldsOf
  split at expanded
  next located =>
    cases expanded
    rw [located]
    rfl
  next absent =>
    rw [absent]
    split at expanded <;> cases expanded
    rfl

namespace Registry

variable {σ ι η : Type} {registry : Registry σ ι η}

def expansion (registry : Registry σ ι η) (requested : List String) : List String :=
  if requested.isEmpty then registry.defaultFields
  else requested.flatMap (fieldsOf registry.presets)

def expandAll (registry : Registry σ ι η) (requested : List String) :
    Except Failure (List String) :=
  if requested.isEmpty then .ok registry.defaultFields
  else (requested.mapM registry.expand).map List.flatten

theorem selector_eq_bind (registry : Registry σ ι η) (requested : List String) :
    registry.selector requested = registry.expandAll requested >>= registry.resolve := by
  unfold selector expandAll
  split
  next => rfl
  next => cases requested.mapM registry.expand <;> rfl

theorem eq_fieldsOf_of_expand {name : String} {fields : List String}
    (expanded : registry.expand name = .ok fields) : fields = fieldsOf registry.presets name :=
  eq_fieldsOf_of_ok expanded

theorem eq_expansion_of_expandAll {requested names : List String}
    (expanded : registry.expandAll requested = .ok names) :
    names = registry.expansion requested := by
  unfold expandAll at expanded
  unfold expansion
  split at expanded
  next empty =>
    cases expanded
    rw [if_pos empty]
  next nonempty =>
    rw [if_neg nonempty]
    cases ran : requested.mapM registry.expand with
    | error failure =>
      rw [ran] at expanded
      cases expanded
    | ok lists =>
      rw [ran] at expanded
      cases expanded
      rw [eq_map_of_mapM (fun _ _ => eq_fieldsOf_of_expand) ran, List.flatMap_def]

theorem registered_fieldsOf (coherent : registry.Coherent) {name : String}
    (known : registry.Knows name) :
    ∀ field ∈ fieldsOf registry.presets name, registry.fields.has field = true := by
  obtain ⟨fields, expanded, registered⟩ := expand_of_knows coherent known
  rwa [← eq_fieldsOf_of_expand expanded]

theorem registered_expansion (coherent : registry.Coherent) {requested : List String}
    (known : ∀ name ∈ requested, registry.Knows name) :
    ∀ name ∈ registry.expansion requested, registry.fields.has name = true := by
  unfold expansion
  split
  next => exact coherent.defaults
  next =>
    intro field member
    obtain ⟨name, asked, within⟩ := List.mem_flatMap.mp member
    exact registered_fieldsOf coherent (known name asked) field within

theorem expandAll_of_known (coherent : registry.Coherent) {requested : List String}
    (known : ∀ name ∈ requested, registry.Knows name) :
    registry.expandAll requested = .ok (registry.expansion requested) := by
  obtain ⟨selector, resolved⟩ := selector_of_known coherent known
  rw [selector_eq_bind] at resolved
  obtain ⟨names, expanded, -⟩ := exists_of_bind_eq_ok resolved
  rw [expanded, eq_expansion_of_expandAll expanded]

theorem resolve_expansion (coherent : registry.Coherent) {requested : List String}
    {selector : Selector ι} (known : ∀ name ∈ requested, registry.Knows name)
    (resolved : registry.selector requested = .ok selector) :
    registry.resolve (registry.expansion requested) = .ok selector := by
  rw [selector_eq_bind, expandAll_of_known coherent known] at resolved
  exact resolved

theorem known_of_expandAll (coherent : registry.Coherent) {requested names : List String}
    (expanded : registry.expandAll requested = .ok names) :
    ∀ name ∈ requested, registry.Knows name := by
  by_contra some
  obtain ⟨before, name, after, rfl, known, unknown⟩ := exists_first_of_not_forall some
  rw [expandAll, if_neg (by simp), mapM_expand_of_unknown coherent known unknown] at expanded
  cases expanded

theorem exists_column {name : String} (field : registry.fields.has name = true) :
    ∃ column, registry.column name = .ok column := by
  obtain ⟨read, located⟩ := Option.isSome_iff_exists.mp field
  exact ⟨(name, read), column_eq_ok_iff.mpr ⟨located, rfl⟩⟩

theorem resolve_eraseDups (registry : Registry σ ι η) (names : List String) :
    registry.resolve names.eraseDups = registry.resolve names := by
  rw [resolve, resolve, eraseDups_of_nodup (nodup_eraseDups names)]

theorem registered_of_resolve {selector : Selector ι} {names : List String}
    (resolved : registry.resolve names = .ok selector) :
    ∀ column ∈ selector.columns, registry.fields.get? column.1 = some column.2 := by
  intro column member
  obtain ⟨name, -, made⟩ := exists_of_mem_mapM (resolve_eq_ok resolved) member
  obtain ⟨located, rfl⟩ := column_eq_ok_iff.mp made
  exact located

structure WellFormed (registry : Registry σ ι η) : Prop where
  apart : ∀ name, ¬ (registry.fields.has name = true ∧ registry.presets.has name = true)
  presets : ∀ name fields, registry.presets.get? name = some fields → fields ≠ []

theorem wellFormed_of_build {σ ι : Type} {registrations : List (Registration σ ι)}
    {schema : Schema σ ι}
    (built : (Draft.empty.registerAll registrations).build = .ok schema) : schema.WellFormed := by
  obtain ⟨apart, presets⟩ := Draft.wellFormed_registerAll registrations
  have builds := Draft.builds_of_ok built
  rw [← builds.fields, ← builds.presets] at *
  exact ⟨apart, fun _ _ located => (presets _ (Entries.mem_of_get? located)).1⟩

theorem WellFormed.fieldsOf_eq (wellFormed : registry.WellFormed) {name : String}
    (field : registry.fields.has name = true) : fieldsOf registry.presets name = [name] := by
  have noPreset : ¬ registry.presets.has name = true :=
    fun preset => wellFormed.apart name ⟨field, preset⟩
  have absent : registry.presets.get? name = none := by simpa [Entries.has] using noPreset
  rw [fieldsOf, absent]
  rfl

theorem WellFormed.fieldsOf_ne_nil (wellFormed : registry.WellFormed) (name : String) :
    fieldsOf registry.presets name ≠ [] := by
  unfold fieldsOf
  cases located : registry.presets.get? name with
  | none => simp
  | some fields => exact wellFormed.presets name fields located

theorem WellFormed.expansion_of_fields (wellFormed : registry.WellFormed) {names : List String}
    (nonempty : names ≠ []) (registered : ∀ name ∈ names, registry.fields.has name = true) :
    registry.expansion names = names := by
  rw [expansion, if_neg (by simpa using nonempty),
    List.flatMap_congr fun name member => wellFormed.fieldsOf_eq (registered name member)]
  exact List.flatMap_singleton' names

theorem WellFormed.eq_nil_of_expansion (wellFormed : registry.WellFormed) {requested : List String}
    (vacant : registry.expansion requested = []) : requested = [] := by
  cases requested with
  | nil => rfl
  | cons name rest =>
    have none := List.flatMap_eq_nil_iff.mp vacant name List.mem_cons_self
    exact absurd none (wellFormed.fieldsOf_ne_nil name)

theorem eq_nil_of_fields {names : List String} {selector : Selector ι}
    (resolved : registry.resolve names = .ok selector) (vacant : selector.fields = []) :
    names = [] := by
  rw [fields_of_resolve resolved] at vacant
  refine List.eq_nil_iff_forall_not_mem.mpr fun name member => ?_
  have among := List.mem_eraseDups.mpr member
  rw [vacant] at among
  cases among

theorem WellFormed.fields_ne_nil (wellFormed : registry.WellFormed)
    (defaults : registry.defaultFields ≠ []) {requested : List String} {selector : Selector ι}
    (resolved : registry.selector requested = .ok selector) : selector.fields ≠ [] := by
  rw [selector_eq_bind] at resolved
  obtain ⟨names, expanded, resolved⟩ := exists_of_bind_eq_ok resolved
  obtain rfl := eq_expansion_of_expandAll expanded
  intro vacant
  have nothing := eq_nil_of_fields resolved vacant
  obtain rfl := wellFormed.eq_nil_of_expansion nothing
  exact defaults nothing

-- Only an empty request selects no columns, so these may be read as the default columns.
theorem selector_fields (coherent : registry.Coherent) (wellFormed : registry.WellFormed)
    {requested : List String} {selector : Selector ι}
    (known : ∀ name ∈ requested, registry.Knows name)
    (resolved : registry.selector requested = .ok selector) :
    registry.selector selector.fields = .ok selector := by
  have registered := registered_expansion coherent known
  have expanded := resolve_expansion coherent known resolved
  have fields := fields_of_resolve expanded
  by_cases vacant : selector.fields = []
  · have nothing := eq_nil_of_fields expanded vacant
    rw [vacant, ← wellFormed.eq_nil_of_expansion nothing, resolved]
  · have again : ∀ name ∈ selector.fields, registry.fields.has name = true := by
      intro name member
      rw [fields, List.mem_eraseDups] at member
      exact registered name member
    rw [selector_eq_bind, expandAll_of_known coherent fun name member => .inl (again name member),
      wellFormed.expansion_of_fields vacant again, ← expanded,
      ← resolve_eraseDups registry (expansion _ _), ← fields]
    rfl

end Registry

namespace Draft

variable {σ ι : Type} {draft : Draft σ ι} {names : List String}

theorem eq_fieldsOf_of_expandDefault {name : String} {fields : List String}
    (expanded : draft.expandDefault name = .ok fields) : fields = fieldsOf draft.presets name :=
  eq_fieldsOf_of_ok expanded

theorem eq_eraseDups_of_resolveDefaults (setting : draft.defaultFields = some names)
    {fields : List String} (resolved : draft.resolveDefaults = .ok fields) :
    fields = (names.flatMap (fieldsOf draft.presets)).eraseDups := by
  rw [resolveDefaults, setting] at resolved
  obtain ⟨expanded, ran, ⟨⟩⟩ := exists_of_bind_eq_ok resolved
  rw [eq_map_of_mapM (fun _ _ => eq_fieldsOf_of_expandDefault) ran, List.flatMap_def]

theorem knows_of_build {schema : Schema σ ι} (setting : draft.defaultFields = some names)
    (built : draft.build = .ok schema) : ∀ name ∈ names, schema.Knows name := by
  have builds := builds_of_ok built
  by_contra some
  obtain ⟨before, name, after, rfl, known, unknown⟩ := exists_first_of_not_forall some
  rw [Registry.Knows, builds.fields, builds.presets] at unknown
  simp only [Registry.Knows, builds.fields, builds.presets] at known
  cases built.symm.trans
    (build_eq_error_iff.mpr ⟨before, name, after, setting, known, unknown, rfl⟩)

end Draft

namespace Registry

variable {σ ι : Type} {registrations : List (Registration σ ι)} {schema : Schema σ ι}

theorem selector_default (built : (Draft.empty.registerAll registrations).build = .ok schema)
    {names : List String} (setting : Draft.lastSetting? registrations = some names)
    (nonempty : names ≠ []) :
    ∃ selector, schema.selector [] = .ok selector ∧ schema.selector names = .ok selector := by
  have coherent := coherent_of_build built
  have builds := Draft.builds_of_ok built
  have set : (Draft.empty.registerAll registrations : Draft σ ι).defaultFields = some names := by
    rw [Draft.defaultFields_registerAll, setting, Option.some_or]
  have known := Draft.knows_of_build set built
  have defaults : schema.defaultFields = (schema.expansion names).eraseDups := by
    rw [Draft.eq_eraseDups_of_resolveDefaults set builds.defaults, expansion, builds.presets,
      if_neg (by simpa using nonempty)]
  obtain ⟨selector, resolved⟩ := selector_of_known coherent known
  refine ⟨selector, ?_, resolved⟩
  rw [selector_eq_bind, expandAll, if_pos List.isEmpty_nil, defaults]
  exact (resolve_eraseDups _ _).trans (resolve_expansion coherent known resolved)

/-- A request fails if it has a name that is neither a field nor a preset, and reports the first
such. Else it selects what the names stand for, each column where it is first met. -/
theorem selector_projects (built : (Draft.empty.registerAll registrations).build = .ok schema)
    (requested : List String) :
    ((∃ failure, schema.selector requested = .error failure) ↔
      ∃ name ∈ requested, ¬ schema.Knows name)
    ∧ (∀ failure, schema.selector requested = .error failure ↔
      ∃ before name after, requested = before ++ name :: after
        ∧ (∀ other ∈ before, schema.Knows other) ∧ ¬ schema.Knows name
        ∧ failure = .unknownField name)
    ∧ schema.selector requested = schema.expandAll requested >>= schema.resolve
    ∧ (∀ names, schema.expandAll requested = .ok names →
      ∀ name ∈ names, ∃ column, schema.column name = .ok column)
    ∧ ((∀ name ∈ requested, schema.Knows name) → ∃ selector,
      schema.selector requested = .ok selector
        ∧ FirstSeen (schema.expansion requested) selector.fields
        ∧ (∀ column ∈ selector.columns, schema.fields.get? column.1 = some column.2)
        ∧ schema.selector selector.fields = .ok selector)
    ∧ ∀ names, Draft.lastSetting? registrations = some names → names ≠ [] →
      ∃ selector, schema.selector [] = .ok selector ∧ schema.selector names = .ok selector := by
  have coherent := coherent_of_build built
  refine ⟨?_, fun failure => selector_eq_error_iff coherent, selector_eq_bind schema requested, ?_,
    ?_, fun names setting nonempty => selector_default built setting nonempty⟩
  · constructor
    · rintro ⟨failure, failed⟩
      obtain ⟨before, name, after, rfl, -, unknown, -⟩ :=
        (selector_eq_error_iff coherent).mp failed
      exact ⟨name, by simp, unknown⟩
    · rintro ⟨name, member, unknown⟩
      have some : ¬ ∀ other ∈ requested, schema.Knows other :=
        fun known => unknown (known name member)
      obtain ⟨before, first, after, rfl, known, unknown⟩ := exists_first_of_not_forall some
      exact ⟨_, selector_of_unknown coherent known unknown⟩
  · intro names expanded name member
    rw [eq_expansion_of_expandAll expanded] at member
    have known := known_of_expandAll coherent expanded
    exact exists_column (registered_expansion coherent known name member)
  · intro known
    obtain ⟨selector, resolved⟩ := selector_of_known coherent known
    have expanded := resolve_expansion coherent known resolved
    refine ⟨selector, resolved, ?_, registered_of_resolve expanded,
      selector_fields coherent (wellFormed_of_build built) known resolved⟩
    rw [Selector.fields, fields_of_mapM_column (resolve_eq_ok expanded)]
    exact firstSeen_eraseDups _

theorem selector_projects_preset :
    let registrations : List (Registration Unit String) :=
      [.field "id" Json.string, .defaultFields ["both", "id"], .field "name" fun _ => .null,
        .preset "both" ["name", "id", "name"], .field "size" fun _ => .null]
    ∃ schema, (Draft.empty.registerAll registrations).build = .ok schema
      ∧ (∃ selector, schema.selector ["size", "both", "id"] = .ok selector
        ∧ selector.fields = ["size", "name", "id"]
        ∧ schema.selector ["size", "name", "id"] = .ok selector)
      ∧ (∃ selector, schema.selector [] = .ok selector
        ∧ schema.selector ["both", "id"] = .ok selector)
      ∧ ∃ failure, schema.selector ["id", "weight", "both"] = .error failure := by
  intro registrations
  have built : (Draft.empty.registerAll registrations).build = .ok _ := rfl
  have projects := selector_projects built
  refine ⟨_, built, ?_, ?_, ?_⟩
  · obtain ⟨-, -, -, -, selects, -⟩ := projects ["size", "both", "id"]
    obtain ⟨selector, resolved, -, -, again⟩ := selects (by unfold Knows; decide)
    cases resolved
    exact ⟨_, rfl, rfl, again⟩
  · obtain ⟨-, -, -, -, -, defaults⟩ := projects []
    exact defaults ["both", "id"] (by decide) (by decide)
  · obtain ⟨fails, -⟩ := projects ["id", "weight", "both"]
    exact fails.mpr ⟨"weight", by decide, by unfold Knows; decide⟩

end Registry

end Inquiry
