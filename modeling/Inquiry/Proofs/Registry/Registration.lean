import Inquiry.Proofs.Execution.Actions
import Inquiry.Proofs.Registry.Resolution
import Mathlib.Tactic.ByContra

set_option autoImplicit false

namespace Inquiry

theorem nodup_eraseDups : ∀ names : List String, names.eraseDups.Nodup
  | [] => List.nodup_nil
  | name :: rest => by
    rw [List.eraseDups_cons, List.nodup_cons]
    refine ⟨?_, nodup_eraseDups _⟩
    simp [List.mem_eraseDups]
termination_by names => names.length
decreasing_by exact Nat.lt_succ_of_le (List.length_filter_le _ rest)

theorem eraseDups_of_nodup {names : List String} (once : names.Nodup) :
    names.eraseDups = names := by
  induction names with
  | nil => rfl
  | cons name rest ih =>
    obtain ⟨new, later⟩ := List.nodup_cons.mp once
    have kept : rest.filter (fun other => !other == name) = rest := by
      rw [List.filter_eq_self]
      intro other member
      simpa using fun same : other = name => new (same ▸ member)
    rw [List.eraseDups_cons, kept, ih later]

namespace Entries

variable {α : Type}

theorem keys_concat (entries : Entries α) (entry : String × α) :
    keys (entries ++ [entry]) = keys entries ++ [entry.1] := List.map_append

theorem has_concat_iff (entries : Entries α) (name other : String) (value : α) :
    has (entries ++ [(name, value)]) other = true ↔ has entries other = true ∨ other = name := by
  rw [has_iff_mem_keys, has_iff_mem_keys, keys_concat, List.mem_append, List.mem_singleton]

def supply (entries : Entries α) (name : String) (value : α) : Entries α :=
  if entries.has name then entries else entries ++ [(name, value)]

theorem has_supply_iff (entries : Entries α) (name other : String) (value : α) :
    has (supply entries name value) other = true ↔ has entries other = true ∨ other = name := by
  unfold supply
  split
  next present =>
    constructor
    · exact .inl
    · rintro (there | rfl) <;> assumption
  next => exact has_concat_iff entries name other value

theorem get?_supply_of_get? {entries : Entries α} {key : String} {old : α}
    (there : get? entries key = some old) (name : String) (value : α) :
    get? (supply entries name value) key = some old := by
  unfold supply
  split
  next => exact there
  next => rw [get?_append, there, Option.some_or]

theorem nodup_keys_concat {entries : Entries α} {entry : String × α}
    (once : (keys entries).Nodup) (new : has entries entry.1 = false) :
    (keys (entries ++ [entry])).Nodup := by
  rw [← Bool.not_eq_true, has_iff_mem_keys] at new
  rw [keys_concat, List.nodup_append]
  refine ⟨once, by simp, fun name member other last => ?_⟩
  rw [List.mem_singleton.mp last]
  exact fun same => new (same ▸ member)

theorem nodup_keys_supply {entries : Entries α} (once : (keys entries).Nodup) (name : String)
    (value : α) : (keys (supply entries name value)).Nodup := by
  unfold supply
  split
  next => exact once
  next missing => exact nodup_keys_concat once (by simpa using missing)

end Entries

namespace Draft

variable {σ ι : Type}

/-- Steps that change a draft in place, and keep what they have changed if they fail. -/
abbrev Registering (σ ι : Type) := ExceptT RegistrationError (StateM (Draft σ ι))

def refuseIf (refused : Draft σ ι → Bool) (error : RegistrationError) : Registering σ ι Unit := do
  if refused (← get) then throw error

def enter : Registration σ ι → Registering σ ι Unit
  | .field name read => do
    refuseIf (fun draft => draft.fields.has name) (.duplicateField name)
    refuseIf (fun draft => draft.presets.has name) (.presetFieldCollision name)
    modify fun draft => { draft with fields := draft.fields ++ [(name, read)] }
  | .preset name fields => do
    refuseIf (fun draft => draft.presets.has name) (.duplicatePreset name)
    refuseIf (fun draft => draft.fields.has name) (.presetFieldCollision name)
    refuseIf (fun _ => fields.isEmpty) (.emptyPreset name)
    fields.forM fun field =>
      refuseIf (fun draft => !draft.fields.has field) (.presetUnknownField name field)
    modify fun draft => { draft with presets := draft.presets ++ [(name, fields)] }
  | .defaultFields names => modify fun draft => { draft with defaultFields := some names }
  | .filterable name read => do
    refuseIf (fun draft => draft.filters.has name) (.duplicateFilterable name)
    modify fun draft => { draft with filters := draft.filters ++ [(name, read)] }
  | .sortable name compare => do
    refuseIf (fun draft => draft.orders.has name) (.duplicateSortable name)
    modify fun draft => { draft with orders := draft.orders ++ [(name, compare)] }
  | .operation name handler metadata => do
    refuseIf (fun draft => draft.operations.has name) (.duplicateOperation name)
    modify fun draft =>
      { draft with operations := draft.operations ++ [(name, ⟨handler, metadata⟩)] }
  | .mutation name handler metadata => do
    refuseIf (fun draft => draft.mutations.has name) (.duplicateMutation name)
    modify fun draft =>
      { draft with mutations := draft.mutations ++ [(name, ⟨handler, metadata⟩)] }
  | .loader load => modify fun draft => { draft with loader := some load }

def enterAll (registrations : List (Registration σ ι)) : StateM (Draft σ ι) Unit :=
  registrations.forM fun registration => discard (enter registration).run

theorem run_modify (change : Draft σ ι → Draft σ ι) (draft : Draft σ ι) :
    (modify change : Registering σ ι Unit).run.run draft = (.ok (), change draft) := rfl

theorem run_refuseIf_bind (refused : Draft σ ι → Bool) (error : RegistrationError)
    (rest : Registering σ ι Unit) (draft : Draft σ ι) :
    (refuseIf refused error >>= fun _ => rest).run.run draft =
      if refused draft then (.error error, draft) else rest.run.run draft := by
  change ((if refused draft then throw error else pure ()) >>= fun _ => rest :
    Registering σ ι Unit).run.run draft = _
  cases refused draft <;> rfl

theorem run_forM_refuseIf_bind (refused : String → Draft σ ι → Bool)
    (error : String → RegistrationError) (names : List String) (rest : Registering σ ι Unit)
    (draft : Draft σ ι) :
    ((names.forM fun name => refuseIf (refused name) (error name)) >>= fun _ => rest).run.run draft =
      match names.find? fun name => refused name draft with
      | some name => (.error (error name), draft)
      | none => rest.run.run draft := by
  induction names with
  | nil => rfl
  | cons name later ih =>
    rw [List.forM, bind_assoc, run_refuseIf_bind, ih, List.find?_cons]
    cases refused name draft <;> rfl

-- In place, a registration that fails has changed nothing when it stops.
theorem run_enter (registration : Registration σ ι) (draft : Draft σ ι) :
    (enter registration).run.run draft =
      match draft.register registration with
      | .ok next => (.ok (), next)
      | .error error => (.error error, draft) := by
  cases registration with
  | field name read =>
    rw [enter, run_refuseIf_bind, run_refuseIf_bind, run_modify]
    simp only [register, addField]
    cases draft.fields.has name <;> cases draft.presets.has name <;> rfl
  | preset name fields =>
    rw [enter, run_refuseIf_bind, run_refuseIf_bind, run_refuseIf_bind, run_forM_refuseIf_bind,
      run_modify]
    simp only [register, addPreset]
    cases draft.presets.has name <;> cases draft.fields.has name <;> cases fields.isEmpty <;>
      cases fields.find? fun field => !draft.fields.has field <;> rfl
  | filterable name read =>
    rw [enter, run_refuseIf_bind, run_modify]
    simp only [register]
    cases draft.filters.has name <;> rfl
  | sortable name compare =>
    rw [enter, run_refuseIf_bind, run_modify]
    simp only [register]
    cases draft.orders.has name <;> rfl
  | operation name handler metadata =>
    rw [enter, run_refuseIf_bind, run_modify]
    simp only [register]
    cases draft.operations.has name <;> rfl
  | mutation name handler metadata =>
    rw [enter, run_refuseIf_bind, run_modify]
    simp only [register]
    cases draft.mutations.has name <;> rfl
  | defaultFields names => rfl
  | loader load => rfl

theorem run_enterAll (registrations : List (Registration σ ι)) (draft : Draft σ ι) :
    (enterAll registrations).run draft = ((), draft.registerAll registrations) := by
  induction registrations generalizing draft with
  | nil => rfl
  | cons registration rest ih =>
    have first : (discard (enter registration).run).run draft =
        ((), draft.registerAll [registration]) := by
      change ((), ((enter registration).run.run draft).2) = _
      rw [run_enter, registerAll, List.foldl_cons, List.foldl_nil]
      cases draft.register registration <;> rfl
    rw [enterAll, List.forM, StateT.run_bind, first]
    exact ih (draft.registerAll [registration])

end Draft

namespace Draft

variable {σ ι : Type} {draft next : Draft σ ι} {registration : Registration σ ι}

/-- What a registration needs of a draft, and the draft that it makes of it. -/
inductive Registers (draft : Draft σ ι) : Registration σ ι → Draft σ ι → Prop
  | field {name : String} {read : ι → Json} (newField : draft.fields.has name = false)
      (noPreset : draft.presets.has name = false) :
      Registers draft (.field name read) { draft with fields := draft.fields ++ [(name, read)] }
  | preset {name : String} {fields : List String} (newPreset : draft.presets.has name = false)
      (noField : draft.fields.has name = false) (someFields : fields ≠ [])
      (known : ∀ field ∈ fields, draft.fields.has field = true) :
      Registers draft (.preset name fields)
        { draft with presets := draft.presets ++ [(name, fields)] }
  | defaultFields {names : List String} :
      Registers draft (.defaultFields names) { draft with defaultFields := some names }
  | filterable {name : String} {read : ι → String} (new : draft.filters.has name = false) :
      Registers draft (.filterable name read)
        { draft with filters := draft.filters ++ [(name, read)] }
  | sortable {name : String} {compare : ι → ι → Ordering} (new : draft.orders.has name = false) :
      Registers draft (.sortable name compare)
        { draft with orders := draft.orders ++ [(name, compare)] }
  | operation {name : String} {handler : Handler σ ι} {metadata : Option Metadata}
      (new : draft.operations.has name = false) :
      Registers draft (.operation name handler metadata)
        { draft with operations := draft.operations ++ [(name, ⟨handler, metadata⟩)] }
  | mutation {name : String} {handler : Handler σ ι} {metadata : Option MutationMetadata}
      (new : draft.mutations.has name = false) :
      Registers draft (.mutation name handler metadata)
        { draft with mutations := draft.mutations ++ [(name, ⟨handler, metadata⟩)] }
  | loader {load : Action σ (List ι)} :
      Registers draft (.loader load) { draft with loader := some load }

theorem passed_of_guarded {refused : Bool} {error : RegistrationError}
    {result : Except RegistrationError (Draft σ ι)}
    (made : (if refused then .error error else result) = .ok next) :
    refused = false ∧ result = .ok next := by
  cases refused with
  | true => cases made
  | false => exact ⟨rfl, made⟩

theorem registers_of_addField {name : String} {read : ι → Json}
    (made : draft.addField name read = .ok next) : draft.Registers (.field name read) next := by
  obtain ⟨newField, others⟩ := passed_of_guarded made
  obtain ⟨noPreset, ⟨⟩⟩ := passed_of_guarded others
  exact .field newField noPreset

theorem registers_of_addPreset {name : String} {fields : List String}
    (made : draft.addPreset name fields = .ok next) : draft.Registers (.preset name fields) next := by
  obtain ⟨newPreset, others⟩ := passed_of_guarded made
  obtain ⟨noField, others⟩ := passed_of_guarded others
  obtain ⟨someFields, others⟩ := passed_of_guarded others
  split at others
  next => cases others
  next known =>
    cases others
    exact .preset newPreset noField (by simpa using someFields) (by simpa using known)

theorem registers_of_ok (made : draft.register registration = .ok next) :
    draft.Registers registration next := by
  cases registration with
  | field name read => exact registers_of_addField made
  | preset name fields => exact registers_of_addPreset made
  | defaultFields names =>
    cases made
    exact .defaultFields
  | loader load =>
    cases made
    exact .loader
  | filterable name read =>
    obtain ⟨new, ⟨⟩⟩ := passed_of_guarded made
    exact .filterable new
  | sortable name compare =>
    obtain ⟨new, ⟨⟩⟩ := passed_of_guarded made
    exact .sortable new
  | operation name handler metadata =>
    obtain ⟨new, ⟨⟩⟩ := passed_of_guarded made
    exact .operation new
  | mutation name handler metadata =>
    obtain ⟨new, ⟨⟩⟩ := passed_of_guarded made
    exact .mutation new

def accepted (draft : Draft σ ι) : List (Registration σ ι) → List (Registration σ ι)
  | [] => []
  | registration :: rest =>
    match draft.register registration with
    | .ok next => registration :: next.accepted rest
    | .error _ => draft.accepted rest

@[simp] theorem registerAll_nil (draft : Draft σ ι) : draft.registerAll [] = draft := rfl

theorem registerAll_cons_of_ok (made : draft.register registration = .ok next)
    (rest : List (Registration σ ι)) :
    draft.registerAll (registration :: rest) = next.registerAll rest := by
  rw [registerAll, List.foldl_cons, made]
  rfl

theorem registerAll_cons_of_error {error : RegistrationError}
    (failed : draft.register registration = .error error) (rest : List (Registration σ ι)) :
    draft.registerAll (registration :: rest) = draft.registerAll rest := by
  rw [registerAll, List.foldl_cons, failed]
  rfl

theorem registerAll_induction {Kept : Draft σ ι → Prop}
    (step : ∀ {draft registration next}, Kept draft → draft.Registers registration next → Kept next)
    (registrations : List (Registration σ ι)) (start : Kept draft) :
    Kept (draft.registerAll registrations) := by
  induction registrations generalizing draft with
  | nil => exact start
  | cons registration rest ih =>
    cases made : draft.register registration with
    | ok next =>
      rw [registerAll_cons_of_ok made]
      exact ih (step start (registers_of_ok made))
    | error error =>
      rw [registerAll_cons_of_error made]
      exact ih start

end Draft

/-- One of the spaces of names of a draft, and the entry that a registration puts there. -/
structure Namespace (σ ι α : Type) where
  entries : Draft σ ι → Entries α
  entry? : Registration σ ι → Option (String × α)

namespace Namespace

variable {σ ι α : Type}

def fields : Namespace σ ι (ι → Json) where
  entries := Draft.fields
  entry?
    | .field name read => some (name, read)
    | _ => none

def presets : Namespace σ ι (List String) where
  entries := Draft.presets
  entry?
    | .preset name fields => some (name, fields)
    | _ => none

def filters : Namespace σ ι (ι → String) where
  entries := Draft.filters
  entry?
    | .filterable name read => some (name, read)
    | _ => none

def orders : Namespace σ ι (ι → ι → Ordering) where
  entries := Draft.orders
  entry?
    | .sortable name compare => some (name, compare)
    | _ => none

def operations : Namespace σ ι (Operation (Handler σ ι)) where
  entries := Draft.operations
  entry?
    | .operation name handler metadata => some (name, ⟨handler, metadata⟩)
    | _ => none

def mutations : Namespace σ ι (Mutation (Handler σ ι)) where
  entries := Draft.mutations
  entry?
    | .mutation name handler metadata => some (name, ⟨handler, metadata⟩)
    | _ => none

/-- The space starts empty, and a registration that succeeds puts its entry at the end if the entry
belongs there; its name must be new. -/
structure Appends (space : Namespace σ ι α) : Prop where
  empty : space.entries .empty = []
  entries : ∀ {draft registration next}, draft.Registers registration next →
    space.entries next = space.entries draft ++ (space.entry? registration).toList
  new : ∀ {draft registration next}, draft.Registers registration next →
    ∀ entry ∈ space.entry? registration, (space.entries draft).has entry.1 = false

theorem fields_appends : (fields : Namespace σ ι _).Appends where
  empty := rfl
  entries registers := by cases registers <;> simp [fields]
  new registers := by cases registers <;> simp_all [fields]

theorem presets_appends : (presets : Namespace σ ι _).Appends where
  empty := rfl
  entries registers := by cases registers <;> simp [presets]
  new registers := by cases registers <;> simp_all [presets]

theorem filters_appends : (filters : Namespace σ ι _).Appends where
  empty := rfl
  entries registers := by cases registers <;> simp [filters]
  new registers := by cases registers <;> simp_all [filters]

theorem orders_appends : (orders : Namespace σ ι _).Appends where
  empty := rfl
  entries registers := by cases registers <;> simp [orders]
  new registers := by cases registers <;> simp_all [orders]

theorem operations_appends : (operations : Namespace σ ι _).Appends where
  empty := rfl
  entries registers := by cases registers <;> simp [operations]
  new registers := by cases registers <;> simp_all [operations]

theorem mutations_appends : (mutations : Namespace σ ι _).Appends where
  empty := rfl
  entries registers := by cases registers <;> simp [mutations]
  new registers := by cases registers <;> simp_all [mutations]

/-- The space holds each name once, for the first registration of it that succeeded and in the order
of these. No registration takes a name of it again. -/
structure Holds (space : Namespace σ ι α) (draft : Draft σ ι) (made : List (Registration σ ι)) :
    Prop where
  once : (space.entries draft).keys.Nodup
  first : space.entries draft = made.filterMap space.entry?
  taken : ∀ registration, ∀ entry ∈ space.entry? registration,
    (space.entries draft).has entry.1 = true → ∃ error, draft.register registration = .error error

variable {space : Namespace σ ι α} {draft : Draft σ ι}

theorem Appends.entries_registerAll (appends : space.Appends)
    (registrations : List (Registration σ ι)) :
    space.entries (draft.registerAll registrations) =
      space.entries draft ++ (draft.accepted registrations).filterMap space.entry? := by
  induction registrations generalizing draft with
  | nil => simp [Draft.accepted]
  | cons registration rest ih =>
    unfold Draft.accepted
    cases made : draft.register registration with
    | error error => rw [Draft.registerAll_cons_of_error made, ih]
    | ok next =>
      rw [Draft.registerAll_cons_of_ok made, ih, appends.entries (Draft.registers_of_ok made),
        List.append_assoc]
      cases added : space.entry? registration <;> simp [added]

theorem Appends.nodup_keys {next : Draft σ ι} {registration : Registration σ ι}
    (appends : space.Appends) (once : (space.entries draft).keys.Nodup)
    (registers : draft.Registers registration next) : (space.entries next).keys.Nodup := by
  rw [appends.entries registers]
  cases added : space.entry? registration with
  | none => simpa using once
  | some entry =>
    exact Entries.nodup_keys_concat once (appends.new registers entry added)

theorem Appends.holds (appends : space.Appends) (registrations : List (Registration σ ι)) :
    space.Holds (Draft.empty.registerAll registrations) (Draft.empty.accepted registrations) where
  once := Draft.registerAll_induction appends.nodup_keys registrations
    (by simp [appends.empty, Entries.keys])
  first := by rw [appends.entries_registerAll, appends.empty, List.nil_append]
  taken := by
    intro registration entry asked old
    cases made : (Draft.empty.registerAll registrations).register registration with
    | error error => exact ⟨error, rfl⟩
    | ok next =>
      rw [appends.new (Draft.registers_of_ok made) entry asked] at old
      cases old

end Namespace

namespace Draft

variable {σ ι : Type} {draft next : Draft σ ι} {registration : Registration σ ι}

def Knows (draft : Draft σ ι) (name : String) : Prop :=
  draft.fields.has name = true ∨ draft.presets.has name = true

structure WellFormed (draft : Draft σ ι) : Prop where
  apart : ∀ name, ¬ (draft.fields.has name = true ∧ draft.presets.has name = true)
  presets : ∀ preset ∈ draft.presets,
    preset.2 ≠ [] ∧ ∀ field ∈ preset.2, draft.fields.has field = true

theorem wellFormed_empty : (empty : Draft σ ι).WellFormed where
  apart := by simp [empty, Entries.has]
  presets := by simp [empty]

theorem WellFormed.registers (wellFormed : draft.WellFormed)
    (registers : draft.Registers registration next) : next.WellFormed := by
  obtain ⟨apart, presets⟩ := wellFormed
  cases registers with
  | @field name read newField noPreset =>
    refine ⟨fun other => ?_, fun preset member => ?_⟩
    · rintro ⟨field, preset⟩
      rcases (Entries.has_concat_iff _ _ _ _).mp field with field | rfl
      · exact apart other ⟨field, preset⟩
      · simp [noPreset] at preset
    · obtain ⟨someFields, known⟩ := presets preset member
      exact ⟨someFields, fun field within =>
        (Entries.has_concat_iff _ _ _ _).mpr (.inl (known field within))⟩
  | @preset name fields newPreset noField someFields known =>
    refine ⟨fun other => ?_, List.forall_mem_append.mpr ⟨presets, by simpa using ⟨someFields, known⟩⟩⟩
    rintro ⟨field, preset⟩
    rcases (Entries.has_concat_iff _ _ _ _).mp preset with preset | rfl
    · exact apart other ⟨field, preset⟩
    · simp [noField] at field
  | _ => exact ⟨apart, presets⟩

theorem wellFormed_registerAll (registrations : List (Registration σ ι)) :
    ((empty : Draft σ ι).registerAll registrations).WellFormed :=
  registerAll_induction WellFormed.registers registrations wellFormed_empty

def setting? : Registration σ ι → Option (List String)
  | .defaultFields names => some names
  | _ => none

def lastSetting? (registrations : List (Registration σ ι)) : Option (List String) :=
  (registrations.filterMap setting?).getLast?

theorem lastSetting?_cons (registration : Registration σ ι) (rest : List (Registration σ ι)) :
    lastSetting? (registration :: rest) = (lastSetting? rest).or (setting? registration) := by
  unfold lastSetting?
  cases setting : setting? registration <;>
    simp [setting, List.getLast?_cons, ← Option.or_some]

theorem Registers.defaultFields_eq (registers : draft.Registers registration next) :
    next.defaultFields = (setting? registration).or draft.defaultFields := by
  cases registers <;> rfl

theorem setting?_of_error {error : RegistrationError}
    (failed : draft.register registration = .error error) : setting? registration = none := by
  cases registration with
  | defaultFields names => cases failed
  | _ => rfl

theorem defaultFields_registerAll (registrations : List (Registration σ ι)) :
    (draft.registerAll registrations).defaultFields =
      (lastSetting? registrations).or draft.defaultFields := by
  induction registrations generalizing draft with
  | nil => rfl
  | cons registration rest ih =>
    rw [lastSetting?_cons, Option.or_assoc]
    cases made : draft.register registration with
    | ok next => rw [registerAll_cons_of_ok made, ih, (registers_of_ok made).defaultFields_eq]
    | error error =>
      rw [registerAll_cons_of_error made, ih, setting?_of_error made, Option.none_or]

theorem expandDefault_eq_error_iff {name : String} {error : RegistrationError} :
    draft.expandDefault name = .error error ↔
      ¬ draft.Knows name ∧ error = .unknownDefaultField name := by
  unfold expandDefault Knows
  cases located : draft.presets.get? name with
  | some fields => simp [Entries.has, located]
  | none =>
    cases known : draft.fields.has name <;> simp [Entries.has, located, eq_comm (a := error)]

theorem exists_expandDefault_iff {name : String} :
    (∃ fields, draft.expandDefault name = .ok fields) ↔ draft.Knows name := by
  have fails (error : RegistrationError) : draft.expandDefault name = .error error ↔ _ :=
    expandDefault_eq_error_iff
  cases expanded : draft.expandDefault name with
  | error error => simp [(fails error).mp expanded]
  | ok fields =>
    have known : draft.Knows name := by
      by_contra unknown
      cases expanded.symm.trans ((fails _).mpr ⟨unknown, rfl⟩)
    simp [known]

theorem resolveDefaults_eq_error_iff {error : RegistrationError} :
    draft.resolveDefaults = .error error ↔
      ∃ names, draft.defaultFields = some names ∧ names.mapM draft.expandDefault = .error error := by
  unfold resolveDefaults
  cases draft.defaultFields with
  | none => simp
  | some names =>
    cases ran : names.mapM draft.expandDefault <;>
      simp [ran, bind, Except.bind, pure, Except.pure]

theorem build_eq_error_iff {error : RegistrationError} :
    draft.build = .error error ↔ ∃ before name after,
      draft.defaultFields = some (before ++ name :: after)
        ∧ (∀ other ∈ before, draft.Knows other) ∧ ¬ draft.Knows name
        ∧ error = .unknownDefaultField name := by
  have resolved : draft.build = .error error ↔ draft.resolveDefaults = .error error := by
    unfold build
    cases draft.resolveDefaults <;> simp [bind, Except.bind, pure, Except.pure]
  rw [resolved, resolveDefaults_eq_error_iff]
  constructor
  · rintro ⟨names, setting, ran⟩
    obtain ⟨before, name, after, rfl, passed, failed⟩ := exists_first_error_of_mapM ran
    obtain ⟨unknown, same⟩ := expandDefault_eq_error_iff.mp failed
    exact ⟨before, name, after, setting,
      fun other member => exists_expandDefault_iff.mp (passed other member), unknown, same⟩
  · rintro ⟨before, name, after, setting, known, unknown, same⟩
    have passed := fun other member => exists_expandDefault_iff.mpr (known other member)
    exact ⟨_, setting, mapM_of_first_error passed (expandDefault_eq_error_iff.mpr ⟨unknown, same⟩)⟩

structure Builds (draft : Draft σ ι) (schema : Schema σ ι) : Prop where
  defaults : draft.resolveDefaults = .ok schema.defaultFields
  fields : schema.fields = draft.fields
  presets : schema.presets = draft.presets
  filters : schema.filters = draft.filters
  orders : schema.orders = draft.orders
  operations : schema.operations = draft.allOperations
  mutations : schema.mutations = draft.mutations
  loader : schema.loader = draft.loader

theorem builds_of_ok {schema : Schema σ ι} (built : draft.build = .ok schema) :
    draft.Builds schema := by
  obtain ⟨defaultFields, resolved, ⟨⟩⟩ := exists_of_bind_eq_ok built
  exact ⟨resolved, rfl, rfl, rfl, rfl, rfl, rfl, rfl⟩

theorem allOperations_eq (draft : Draft σ ι) :
    draft.allOperations =
      let described := draft.operations.supply schemaName schemaOperation
      if draft.filters.isEmpty then described else described.supply distinctName distinctOperation := by
  unfold allOperations Entries.supply
  cases draft.filters.isEmpty <;> rfl

theorem get?_allOperations {name : String} {operation : Operation (Handler σ ι)}
    (registered : draft.operations.get? name = some operation) :
    draft.allOperations.get? name = some operation := by
  have described := Entries.get?_supply_of_get? registered schemaName schemaOperation
  rw [allOperations_eq]
  dsimp only
  split
  next => exact described
  next => exact Entries.get?_supply_of_get? described distinctName distinctOperation

theorem has_allOperations_iff {name : String} :
    draft.allOperations.has name = true ↔
      draft.operations.has name = true ∨ name = schemaName
        ∨ (name = distinctName ∧ draft.filters ≠ []) := by
  rw [allOperations_eq]
  dsimp only
  split
  next vacant => simp [Entries.has_supply_iff, List.isEmpty_iff.mp vacant]
  next filters =>
    have filters : draft.filters ≠ [] := by simpa using filters
    simp [Entries.has_supply_iff, filters, or_assoc]

theorem nodup_keys_allOperations (once : draft.operations.keys.Nodup) :
    draft.allOperations.keys.Nodup := by
  have described := Entries.nodup_keys_supply once schemaName schemaOperation
  rw [allOperations_eq]
  dsimp only
  split
  next => exact described
  next => exact Entries.nodup_keys_supply described distinctName distinctOperation

theorem nodup_resolveDefaults (once : draft.fields.keys.Nodup) {names : List String}
    (resolved : draft.resolveDefaults = .ok names) : names.Nodup := by
  unfold resolveDefaults at resolved
  split at resolved
  next =>
    cases resolved
    exact once
  next =>
    obtain ⟨expanded, -, ⟨⟩⟩ := exists_of_bind_eq_ok resolved
    exact nodup_eraseDups expanded.flatten

/-- A registration that fails changes nothing, and each name stands for the first registration of it
that succeeded. Building fails just for the first unknown default column. -/
theorem registerAll_invariant (registrations : List (Registration σ ι)) :
    let draft := ((enterAll registrations).run empty).2
    let made := empty.accepted registrations
    (∀ registration error after, (enter registration).run.run draft = (.error error, after) →
      after = draft)
    ∧ (Namespace.fields.Holds draft made ∧ Namespace.presets.Holds draft made
      ∧ Namespace.filters.Holds draft made ∧ Namespace.orders.Holds draft made
      ∧ Namespace.operations.Holds draft made ∧ Namespace.mutations.Holds draft made)
    ∧ draft.WellFormed
    ∧ (∀ error, draft.build = .error error ↔ ∃ before name after,
      lastSetting? registrations = some (before ++ name :: after)
        ∧ (∀ other ∈ before, draft.Knows other) ∧ ¬ draft.Knows name
        ∧ error = .unknownDefaultField name)
    ∧ ∀ schema, draft.build = .ok schema →
      schema.defaultFields.Nodup ∧ (∀ field ∈ schema.defaultFields, draft.fields.has field = true)
      ∧ schema.operations.has schemaName = true
      ∧ (schema.operations.has distinctName = true ↔
        draft.operations.has distinctName = true ∨ draft.filters ≠ [])
      ∧ ∀ name operation, draft.operations.get? name = some operation →
        schema.operations.get? name = some operation := by
  rw [run_enterAll]
  intro draft made
  have fields := Namespace.fields_appends.holds registrations
  refine ⟨?_, ⟨fields, Namespace.presets_appends.holds registrations,
    Namespace.filters_appends.holds registrations, Namespace.orders_appends.holds registrations,
    Namespace.operations_appends.holds registrations,
    Namespace.mutations_appends.holds registrations⟩, wellFormed_registerAll registrations, ?_, ?_⟩
  · intro registration error after failed
    rw [run_enter] at failed
    split at failed
    next => cases failed
    next =>
      cases failed
      rfl
  · intro error
    have setting : draft.defaultFields = lastSetting? registrations := by
      rw [defaultFields_registerAll, empty, Option.or_none]
    rw [build_eq_error_iff, setting]
  · intro schema built
    have builds := builds_of_ok built
    have known := (coherent_empty.registerAll registrations).resolveDefaults builds.defaults
    rw [builds.operations]
    refine ⟨nodup_resolveDefaults fields.once builds.defaults, known, ?_, ?_, ?_⟩
    · exact has_allOperations_iff.mpr (.inr (.inl rfl))
    · rw [has_allOperations_iff]
      simp [schemaName, distinctName]
    · exact fun name operation registered => get?_allOperations registered

theorem registerAll_invariant_interleaved :
    let registrations : List (Registration Unit String) :=
      [.preset "all" ["name"], .field "name" Json.string, .preset "all" ["name", "name"],
        .defaultFields ["missing"], .field "all" Json.string, .field "name" fun _ => .null,
        .filterable "name" id, .defaultFields ["all", "name"]]
    let draft := ((enterAll registrations).run empty).2
    draft.fields.keys = ["name"] ∧ draft.WellFormed
      ∧ ∃ schema, draft.build = .ok schema ∧ schema.defaultFields = ["name"]
        ∧ schema.operations.has distinctName = true := by
  intro registrations draft
  obtain ⟨-, ⟨-, -⟩, wellFormed, -, succeeds⟩ := registerAll_invariant registrations
  refine ⟨by decide, wellFormed, _, rfl, by decide, ?_⟩
  exact (succeeds _ rfl).2.2.2.1.mpr (.inr (by decide))

end Draft

end Inquiry
