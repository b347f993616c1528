import Inquiry.Proofs.Execution.Actions
import Inquiry.Registry.Draft
import Mathlib.Data.List.Forall2

set_option autoImplicit false

namespace Inquiry

theorem exists_first_of_not_forall {α : Type} {P : α → Prop} {items : List α}
    (some : ¬ ∀ item ∈ items, P item) :
    ∃ before item after, items = before ++ item :: after ∧ (∀ other ∈ before, P other) ∧ ¬ P item := by
  induction items with
  | nil => exact absurd (by simp) some
  | cons item rest ih =>
    by_cases holds : P item
    · have later : ¬ ∀ other ∈ rest, P other := fun all =>
        some (List.forall_mem_cons.mpr ⟨holds, all⟩)
      obtain ⟨before, other, after, rfl, earlier, fails⟩ := ih later
      exact ⟨item :: before, other, after, rfl, List.forall_mem_cons.mpr ⟨holds, earlier⟩, fails⟩
    · exact ⟨[], item, rest, rfl, by simp, holds⟩

section Traversal

variable {α β ε : Type} {change : α → Except ε β}

theorem mapM_of_forall_ok {items : List α}
    (each : ∀ item ∈ items, ∃ result, change item = .ok result) :
    ∃ results, items.mapM change = .ok results
      ∧ ∀ result ∈ results, ∃ item ∈ items, change item = .ok result := by
  induction items with
  | nil => exact ⟨[], rfl, by simp⟩
  | cons item rest ih =>
    obtain ⟨result, first⟩ := each item List.mem_cons_self
    obtain ⟨results, later, origins⟩ := ih fun other member =>
      each other (List.mem_cons_of_mem item member)
    refine ⟨result :: results, ?_, ?_⟩
    · rw [List.mapM_cons, first, later]
      rfl
    · intro other member
      rcases List.mem_cons.mp member with rfl | inRest
      · exact ⟨item, List.mem_cons_self, first⟩
      · obtain ⟨origin, inItems, same⟩ := origins other inRest
        exact ⟨origin, List.mem_cons_of_mem item inItems, same⟩

theorem mapM_eq_map_of_forall {items : List α} {result : α → β}
    (each : ∀ item ∈ items, change item = .ok (result item)) :
    items.mapM change = .ok (items.map result) := by
  induction items with
  | nil => rfl
  | cons item rest ih =>
    obtain ⟨first, later⟩ := List.forall_mem_cons.mp each
    rw [List.mapM_cons, first, ih later]
    rfl

theorem mapM_eq_ok_iff {items : List α} {results : List β} :
    items.mapM change = .ok results ↔
      List.Forall₂ (fun item result => change item = .ok result) items results := by
  induction items generalizing results with
  | nil => simp [pure, Except.pure, eq_comm]
  | cons item rest ih =>
    rw [List.mapM_cons, List.forall₂_cons_left_iff]
    constructor
    · intro ran
      obtain ⟨first, made, ran⟩ := exists_of_bind_eq_ok ran
      obtain ⟨others, later, ⟨⟩⟩ := exists_of_bind_eq_ok ran
      exact ⟨first, others, made, ih.mp later, rfl⟩
    · rintro ⟨first, others, made, later, rfl⟩
      rw [made, ih.mpr later]
      rfl

theorem eq_map_of_mapM {value : α → β}
    (each : ∀ item result, change item = .ok result → result = value item) {items : List α}
    {results : List β} (ran : items.mapM change = .ok results) : results = items.map value := by
  have pointwise := (mapM_eq_ok_iff.mp ran).imp fun item result made =>
    (each item result made).symm
  rw [← List.forall₂_map_left_iff (R := Eq), List.forall₂_eq_eq_eq] at pointwise
  exact pointwise.symm

theorem exists_of_mem_mapM {items : List α} {results : List β}
    (ran : items.mapM change = .ok results) {result : β} (member : result ∈ results) :
    ∃ item ∈ items, change item = .ok result := by
  have pointwise := mapM_eq_ok_iff.mp ran
  clear ran
  induction pointwise with
  | nil => cases member
  | @cons item _ _ _ made _ ih =>
    rcases List.mem_cons.mp member with rfl | later
    · exact ⟨item, List.mem_cons_self, made⟩
    · obtain ⟨origin, inRest, same⟩ := ih later
      exact ⟨origin, List.mem_cons_of_mem item inRest, same⟩

theorem mapM_of_first_error {before after : List α} {item : α} {error : ε}
    (passed : ∀ other ∈ before, ∃ result, change other = .ok result)
    (failed : change item = .error error) :
    (before ++ item :: after).mapM change = .error error := by
  obtain ⟨results, ran, -⟩ := mapM_of_forall_ok passed
  rw [List.mapM_append, List.mapM_cons, ran, failed]
  rfl

theorem exists_first_error_of_mapM {items : List α} {error : ε}
    (ran : items.mapM change = .error error) :
    ∃ before item after, items = before ++ item :: after
      ∧ (∀ other ∈ before, ∃ result, change other = .ok result) ∧ change item = .error error := by
  induction items with
  | nil => cases ran
  | cons item rest ih =>
    rw [List.mapM_cons] at ran
    cases first : change item with
    | error failure =>
      rw [first] at ran
      cases ran
      exact ⟨[], item, rest, rfl, by simp, first⟩
    | ok result =>
      cases later : rest.mapM change with
      | ok results =>
        rw [first, later] at ran
        cases ran
      | error failure =>
        rw [first, later] at ran
        cases ran
        obtain ⟨before, other, after, rfl, passed, failed⟩ := ih later
        exact ⟨item :: before, other, after, rfl,
          List.forall_mem_cons.mpr ⟨⟨result, first⟩, passed⟩, failed⟩

end Traversal

namespace Entries

variable {α : Type}

theorem mem_of_get? {entries : Entries α} {key : String} {value : α}
    (located : entries.get? key = some value) : (key, value) ∈ entries := by
  induction entries with
  | nil => cases located
  | cons entry rest ih =>
    obtain ⟨name, first⟩ := entry
    by_cases same : name = key
    · simp_all [get?]
    · exact List.mem_cons_of_mem _ (ih (by simpa [get?, same] using located))

theorem get?_append (first second : Entries α) (key : String) :
    get? (first ++ second) key = (get? first key).or (get? second key) := by
  induction first with
  | nil => rfl
  | cons entry rest ih =>
    obtain ⟨name, value⟩ := entry
    by_cases same : name = key
    · simp [get?, same]
    · simpa [get?, same] using ih

theorem has_append (first second : Entries α) (key : String) :
    has (first ++ second) key = (has first key || has second key) := by
  rw [has, has, has, get?_append, Option.isSome_or]

theorem get?_map {β : Type} (change : String → α → β) (entries : Entries α) (key : String) :
    get? (entries.map fun entry => (entry.1, change entry.1 entry.2)) key =
      (get? entries key).map (change key) := by
  induction entries with
  | nil => rfl
  | cons entry rest ih =>
    obtain ⟨name, value⟩ := entry
    by_cases same : name = key
    · subst same
      simp [get?]
    · simpa [get?, same] using ih

end Entries

namespace Draft

variable {σ ι : Type}

def Coherent (draft : Draft σ ι) : Prop :=
  ∀ name fields, draft.presets.get? name = some fields →
    ∀ field ∈ fields, draft.fields.has field = true

theorem coherent_empty : (empty : Draft σ ι).Coherent := by
  intro name fields located
  cases located

theorem Coherent.addField {draft next : Draft σ ι} {name : String} {read : ι → Json}
    (coherent : draft.Coherent) (made : draft.addField name read = .ok next) : next.Coherent := by
  unfold Draft.addField at made
  split at made
  next => cases made
  next =>
    split at made
    next => cases made
    next =>
      cases made
      intro preset fields located field member
      rw [Entries.has_append, coherent preset fields located field member, Bool.true_or]

theorem Coherent.addPreset {draft next : Draft σ ι} {name : String} {fields : List String}
    (coherent : draft.Coherent) (made : draft.addPreset name fields = .ok next) :
    next.Coherent := by
  unfold Draft.addPreset at made
  split at made
  next => cases made
  next =>
    split at made
    next => cases made
    next =>
      split at made
      next => cases made
      next =>
        split at made
        next => cases made
        next complete =>
          cases made
          intro preset others located field member
          rw [Entries.get?_append, Option.or_eq_some_iff] at located
          rcases located with old | ⟨-, new⟩
          · exact coherent preset others old field member
          · have same : fields = others := by
              by_cases wanted : name = preset <;> simp_all [Entries.get?]
            rw [← same] at member
            simpa using List.find?_eq_none.mp complete field member

theorem Coherent.of_guarded {refused : Bool} {error : RegistrationError} {added next : Draft σ ι}
    (made : (if refused then Except.error error else .ok added) = .ok next)
    (coherent : added.Coherent) :
    next.Coherent := by
  cases refused with
  | true => cases made
  | false =>
    cases made
    exact coherent

theorem Coherent.register {draft next : Draft σ ι} {registration : Registration σ ι}
    (coherent : draft.Coherent) (made : draft.register registration = .ok next) :
    next.Coherent := by
  cases registration with
  | field name read => exact coherent.addField made
  | preset name fields => exact coherent.addPreset made
  | defaultFields names =>
    cases made
    exact coherent
  | filterable name read => exact Coherent.of_guarded made coherent
  | sortable name compare => exact Coherent.of_guarded made coherent
  | operation name handler metadata => exact Coherent.of_guarded made coherent
  | mutation name handler metadata => exact Coherent.of_guarded made coherent
  | loader load =>
    cases made
    exact coherent

theorem Coherent.registerAll {draft : Draft σ ι} (coherent : draft.Coherent)
    (registrations : List (Registration σ ι)) : (draft.registerAll registrations).Coherent := by
  induction registrations generalizing draft with
  | nil => exact coherent
  | cons registration rest ih =>
    rw [Draft.registerAll, List.foldl_cons]
    apply ih
    cases made : draft.register registration with
    | ok next => exact coherent.register made
    | error failure => exact coherent

end Draft

namespace Registry

variable {σ ι η : Type}

def Knows (registry : Registry σ ι η) (name : String) : Prop :=
  registry.fields.has name = true ∨ registry.presets.has name = true

structure Coherent (registry : Registry σ ι η) : Prop where
  presets : ∀ name fields, registry.presets.get? name = some fields →
    ∀ field ∈ fields, registry.fields.has field = true
  defaults : ∀ field ∈ registry.defaultFields, registry.fields.has field = true

end Registry

namespace Draft

variable {σ ι : Type} {draft : Draft σ ι}

theorem Coherent.expandDefault (coherent : draft.Coherent) {name : String} {fields : List String}
    (expanded : draft.expandDefault name = .ok fields) :
    ∀ field ∈ fields, draft.fields.has field = true := by
  unfold Draft.expandDefault at expanded
  split at expanded
  next others located =>
    cases expanded
    exact coherent name fields located
  next =>
    split at expanded
    next known =>
      cases expanded
      intro field member
      rwa [List.mem_singleton.mp member]
    next => cases expanded

theorem Coherent.resolveDefaults (coherent : draft.Coherent) {fields : List String}
    (resolved : draft.resolveDefaults = .ok fields) :
    ∀ field ∈ fields, draft.fields.has field = true := by
  intro field member
  unfold Draft.resolveDefaults at resolved
  split at resolved
  next =>
    cases resolved
    exact (Entries.has_iff_mem_keys draft.fields field).mpr member
  next names _ =>
    cases ran : names.mapM draft.expandDefault with
    | error failure =>
      rw [ran] at resolved
      cases resolved
    | ok expanded =>
      rw [ran] at resolved
      cases resolved
      obtain ⟨fields, inExpanded, inFields⟩ := List.mem_flatten.mp (List.mem_eraseDups.mp member)
      obtain ⟨name, -, same⟩ := exists_of_mem_mapM ran inExpanded
      exact coherent.expandDefault same field inFields

theorem Coherent.build (coherent : draft.Coherent) {schema : Schema σ ι}
    (built : draft.build = .ok schema) : schema.Coherent := by
  unfold Draft.build at built
  cases resolved : draft.resolveDefaults with
  | error failure =>
    rw [resolved] at built
    cases built
  | ok fields =>
    rw [resolved] at built
    cases built
    exact ⟨coherent, coherent.resolveDefaults resolved⟩

end Draft

namespace Registry

variable {σ ι : Type}

theorem coherent_of_build {registrations : List (Registration σ ι)} {schema : Schema σ ι}
    (built : (Draft.empty.registerAll registrations).build = .ok schema) : schema.Coherent :=
  (Draft.coherent_empty.registerAll registrations).build built

section Selection

variable {η : Type} {registry : Registry σ ι η}

theorem expand_of_knows (coherent : registry.Coherent) {name : String}
    (known : registry.Knows name) :
    ∃ fields, registry.expand name = .ok fields
      ∧ ∀ field ∈ fields, registry.fields.has field = true := by
  unfold expand
  cases located : registry.presets.get? name with
  | some fields => exact ⟨fields, rfl, coherent.presets name fields located⟩
  | none =>
    have field : registry.fields.has name = true := by
      rcases known with field | preset
      · exact field
      · simp [Entries.has, located] at preset
    refine ⟨[name], by simp [field], ?_⟩
    intro other member
    rwa [List.mem_singleton.mp member]

theorem expand_of_not_knows {name : String} (unknown : ¬ registry.Knows name) :
    registry.expand name = .error (.unknownField name) := by
  unfold Knows at unknown
  unfold expand
  cases located : registry.presets.get? name with
  | some fields => simp [Entries.has, located] at unknown
  | none => simp_all

theorem resolve_of_registered {names : List String}
    (registered : ∀ name ∈ names, registry.fields.has name = true) :
    ∃ selector, registry.resolve names = .ok selector := by
  have each : ∀ name ∈ names.eraseDups, ∃ column, registry.column name = .ok column := by
    intro name member
    obtain ⟨read, located⟩ := Option.isSome_iff_exists.mp
      (registered name (List.mem_eraseDups.mp member))
    exact ⟨(name, read), by rw [column, located]⟩
  obtain ⟨columns, ran, -⟩ := mapM_of_forall_ok each
  exact ⟨⟨columns⟩, by rw [resolve, ran]; rfl⟩

theorem selector_of_known (coherent : registry.Coherent) {requested : List String}
    (known : ∀ name ∈ requested, registry.Knows name) :
    ∃ selector, registry.selector requested = .ok selector := by
  unfold selector
  split
  next => exact resolve_of_registered coherent.defaults
  next =>
    obtain ⟨expanded, ran, origins⟩ := mapM_of_forall_ok fun name member =>
      let ⟨fields, same, _⟩ := expand_of_knows coherent (known name member)
      ⟨fields, same⟩
    rw [ran]
    apply resolve_of_registered
    intro field member
    obtain ⟨fields, inExpanded, inFields⟩ := List.mem_flatten.mp member
    obtain ⟨name, asked, same⟩ := origins fields inExpanded
    obtain ⟨others, sameToo, registered⟩ := expand_of_knows coherent (known name asked)
    rw [same] at sameToo
    cases sameToo
    exact registered field inFields

theorem mapM_expand_of_unknown (coherent : registry.Coherent) {before : List String}
    {name : String} (known : ∀ other ∈ before, registry.Knows other)
    (unknown : ¬ registry.Knows name) (after : List String) :
    (before ++ name :: after).mapM registry.expand = .error (.unknownField name) := by
  have passed : ∀ other ∈ before, ∃ fields, registry.expand other = .ok fields := by
    intro other member
    obtain ⟨fields, same, -⟩ := expand_of_knows coherent (known other member)
    exact ⟨fields, same⟩
  exact mapM_of_first_error passed (expand_of_not_knows unknown)

theorem selector_of_unknown (coherent : registry.Coherent) {before after : List String}
    {name : String} (known : ∀ other ∈ before, registry.Knows other)
    (unknown : ¬ registry.Knows name) :
    registry.selector (before ++ name :: after) = .error (.unknownField name) := by
  unfold selector
  split
  next vacant => simp at vacant
  next =>
    rw [mapM_expand_of_unknown coherent known unknown]
    rfl

theorem selector_eq_error_iff (coherent : registry.Coherent) {requested : List String}
    {failure : Failure} :
    registry.selector requested = .error failure ↔
      ∃ before name after, requested = before ++ name :: after
        ∧ (∀ other ∈ before, registry.Knows other) ∧ ¬ registry.Knows name
        ∧ failure = .unknownField name := by
  constructor
  · intro failed
    have some : ¬ ∀ name ∈ requested, registry.Knows name := fun known => by
      obtain ⟨selector, resolved⟩ := selector_of_known coherent known
      cases resolved.symm.trans failed
    obtain ⟨before, name, after, rfl, known, unknown⟩ := exists_first_of_not_forall some
    cases failed.symm.trans (selector_of_unknown coherent known unknown)
    exact ⟨before, name, after, rfl, known, unknown, rfl⟩
  · rintro ⟨before, name, after, rfl, known, unknown, rfl⟩
    exact selector_of_unknown coherent known unknown

end Selection

end Registry

end Inquiry
