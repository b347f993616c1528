import Inquiry.Proofs.Execution.Dismissal
import Inquiry.Proofs.Registry.Registration
import Inquiry.Proofs.Request.Arguments
import Inquiry.Proofs.Text.ByteOrder

set_option autoImplicit false

namespace Inquiry

namespace Entries

variable {α : Type}

theorem put_of_new {entries : Entries α} {key : String} (value : α) (new : key ∉ keys entries) :
    put entries key value = entries ++ [(key, value)] := by
  induction entries with
  | nil => rfl
  | cons entry rest ih =>
    obtain ⟨name, old⟩ := entry
    simp only [keys, List.map_cons, List.mem_cons, not_or] at new
    obtain ⟨different, later⟩ := new
    rw [put, if_neg (Ne.symm different), ih later]
    rfl

theorem foldl_put_of_nodup {pairs entries : Entries α} (once : (keys (entries ++ pairs)).Nodup) :
    pairs.foldl (fun entries (key, value) => put entries key value) entries = entries ++ pairs := by
  induction pairs generalizing entries with
  | nil => rw [List.foldl_nil, List.append_nil]
  | cons pair rest ih =>
    obtain ⟨key, value⟩ := pair
    have new : key ∉ keys entries := by
      rw [keys, List.map_append, List.nodup_append] at once
      intro member
      exact once.2.2 key member key List.mem_cons_self rfl
    rw [List.append_cons] at once ⊢
    simpa only [List.foldl_cons, put_of_new value new] using ih once

theorem ofPairs_of_nodup {pairs : List (String × α)} (once : (keys pairs).Nodup) :
    ofPairs pairs = pairs := foldl_put_of_nodup once

def ofNames (names : List String) (value? : String → Option α) : Entries α :=
  names.filterMap fun name => (value? name).map fun value => (name, value)

theorem keys_ofNames (names : List String) (value? : String → Option α) :
    keys (ofNames names value?) = names.filter fun name => (value? name).isSome := by
  induction names with
  | nil => rfl
  | cons name rest ih =>
    cases given : value? name with
    | none => simpa [ofNames, given] using ih
    | some value => simpa [ofNames, keys, given] using ih

theorem get?_ofNames (names : List String) (value? : String → Option α) (name : String) :
    get? (ofNames names value?) name = if name ∈ names then value? name else none := by
  induction names with
  | nil => rfl
  | cons other rest ih =>
    by_cases same : other = name
    · subst same
      cases given : value? other with
      | none => simpa [ofNames, given] using ih
      | some value => simp [ofNames, get?, given]
    · have different : name ≠ other := fun equal => same equal.symm
      cases given : value? other with
      | none => simpa [ofNames, given, different] using ih
      | some value => simpa [ofNames, get?, given, same, different] using ih

end Entries

structure Document where
  operations : List String
  operationMetadata : Entries Json
  mutations : List String
  mutationMetadata : Entries Json
  filterableFields : List String
  sortableFields : List String
  fields : List String
  presets : Entries (List String)
  defaultFields : List String

def Document.toJson (document : Document) : Json :=
  .object [
    ("operations", .ofStrings document.operations),
    ("operationMetadata", .object document.operationMetadata),
    ("mutations", .ofStrings document.mutations),
    ("mutationMetadata", .object document.mutationMetadata),
    ("filterableFields", .ofStrings document.filterableFields),
    ("sortableFields", .ofStrings document.sortableFields),
    ("fields", .ofStrings document.fields),
    ("presets", .object (document.presets.map fun (name, fields) => (name, .ofStrings fields))),
    ("defaultFields", .ofStrings document.defaultFields)]

namespace Registry

variable {σ ι η : Type}

def operationMetadata? (registry : Registry σ ι η) (name : String) : Option Metadata :=
  (registry.operations.get? name).bind Operation.metadata

def mutationMetadata? (registry : Registry σ ι η) (name : String) : Option MutationMetadata :=
  (registry.mutations.get? name).bind Mutation.metadata

def document (registry : Registry σ ι η) : Document where
  operations := sortedNames registry.operations.keys
  operationMetadata := .ofNames (sortedNames registry.operations.keys) fun name =>
    (registry.operationMetadata? name).map Metadata.toJson
  mutations := sortedNames registry.mutations.keys
  mutationMetadata := .ofNames (sortedNames registry.mutations.keys) fun name =>
    (registry.mutationMetadata? name).map MutationMetadata.toJson
  filterableFields := registry.filters.keys
  sortableFields := registry.orders.keys
  fields := registry.fields.keys
  presets := registry.presets
  defaultFields := registry.defaultFields

structure Distinct (registry : Registry σ ι η) : Prop where
  operations : registry.operations.keys.Nodup
  mutations : registry.mutations.keys.Nodup
  presets : registry.presets.keys.Nodup

theorem nodup_sortedNames {names : List String} (once : names.Nodup) :
    (sortedNames names).Nodup := (List.mergeSort_perm names _).nodup_iff.mpr once

theorem mem_sortedNames {names : List String} {name : String} :
    name ∈ sortedNames names ↔ name ∈ names := (List.mergeSort_perm names _).mem_iff

theorem documents_eq {μ : Type} {names : List String} (once : names.Nodup)
    (metadata? : String → Option μ) (toJson : μ → Json) :
    documents names metadata? toJson =
      .object (Entries.ofNames names fun name => (metadata? name).map toJson) := by
  have pairs : (names.filterMap fun name => (metadata? name).map fun metadata =>
      (name, toJson metadata)) = Entries.ofNames names fun name => (metadata? name).map toJson := by
    unfold Entries.ofNames
    simp only [Option.map_map]
    rfl
  rw [documents, Json.ofPairs, pairs, Entries.ofPairs_of_nodup]
  rw [Entries.keys_ofNames]
  exact once.filter _

theorem introspect_eq_toJson {registry : Registry σ ι η} (distinct : registry.Distinct) :
    registry.introspect = registry.document.toJson := by
  have presets : (Entries.keys (registry.presets.map fun (name, fields) =>
      (name, Json.ofStrings fields))).Nodup := by
    have same : Entries.keys (registry.presets.map fun (name, fields) =>
        (name, Json.ofStrings fields)) = registry.presets.keys := by
      simp [Entries.keys]
    exact same ▸ distinct.presets
  rw [introspect, documents_eq (nodup_sortedNames distinct.operations),
    documents_eq (nodup_sortedNames distinct.mutations), Json.ofPairs,
    Entries.ofPairs_of_nodup presets]
  rfl

def columns (registry : Registry σ ι η) (requested : List String) :
    Except Failure (List String) :=
  (registry.selector requested).map Selector.fields

section Columns

variable {registry : Registry σ ι η}

theorem column_eq_ok_iff {name : String} {column : String × (ι → Json)} :
    registry.column name = .ok column ↔
      registry.fields.get? name = some column.2 ∧ name = column.1 := by
  obtain ⟨field, read⟩ := column
  unfold Registry.column
  cases located : registry.fields.get? name with
  | none => simp
  | some registered => simp [and_comm]

theorem fields_of_mapM_column {names : List String} {columns : List (String × (ι → Json))}
    (ran : names.mapM registry.column = .ok columns) : columns.map Prod.fst = names := by
  have named := (mapM_eq_ok_iff.mp ran).imp fun name column made => (column_eq_ok_iff.mp made).2
  rw [← List.forall₂_map_right_iff (R := Eq), List.forall₂_eq_eq_eq] at named
  exact named.symm

theorem resolve_eq_ok {names : List String} {selector : Selector ι}
    (resolved : registry.resolve names = .ok selector) :
    names.eraseDups.mapM registry.column = .ok selector.columns := by
  unfold resolve at resolved
  cases ran : names.eraseDups.mapM registry.column with
  | error failure =>
    rw [ran] at resolved
    cases resolved
  | ok columns =>
    rw [ran] at resolved
    cases resolved
    rfl

theorem fields_of_resolve {names : List String} {selector : Selector ι}
    (resolved : registry.resolve names = .ok selector) : selector.fields = names.eraseDups :=
  fields_of_mapM_column (resolve_eq_ok resolved)

theorem resolve_map_fields {names : List String}
    (registered : ∀ name ∈ names, registry.fields.has name = true) :
    (registry.resolve names).map Selector.fields = .ok names.eraseDups := by
  obtain ⟨selector, resolved⟩ := resolve_of_registered registered
  rw [resolved]
  exact congrArg Except.ok (fields_of_resolve resolved)

theorem columns_of_expand {name : String} {fields : List String}
    (expanded : registry.expand name = .ok fields)
    (registered : ∀ field ∈ fields, registry.fields.has field = true) :
    registry.columns [name] = .ok fields.eraseDups := by
  have selected : registry.selector [name] = registry.resolve fields := by
    unfold selector
    rw [List.mapM_cons, expanded]
    simp [bind, Except.bind, pure, Except.pure]
  rw [columns, selected, resolve_map_fields registered]

end Columns

section Engine

variable {registry : Registry σ ι η}

theorem columns_of_field {name : String} (field : registry.fields.has name = true)
    (noPreset : registry.presets.has name = false) : registry.columns [name] = .ok [name] := by
  have absent : registry.presets.get? name = none := by simpa [Entries.has] using noPreset
  have expanded : registry.expand name = .ok [name] := by
    rw [expand, absent]
    simp [field]
  exact columns_of_expand expanded (by simpa using field)

theorem columns_of_preset (coherent : registry.Coherent) {name : String} {fields : List String}
    (preset : registry.presets.get? name = some fields) :
    registry.columns [name] = .ok fields.eraseDups :=
  columns_of_expand (by rw [expand, preset]) (coherent.presets name fields preset)

theorem selector_single_of_unknown (coherent : registry.Coherent) {name : String}
    (unknown : ¬ registry.Knows name) :
    registry.selector [name] = .error (.unknownField name) := by
  have earlier : ∀ other ∈ ([] : List String), registry.Knows other := by simp
  exact selector_of_unknown coherent earlier unknown

theorem columns_eq_error_iff (coherent : registry.Coherent) {name : String} {failure : Failure} :
    registry.columns [name] = .error failure ↔
      ¬ registry.Knows name ∧ failure = .unknownField name := by
  by_cases known : registry.Knows name
  case pos =>
    have asked : ∀ other ∈ [name], registry.Knows other := by simpa using known
    obtain ⟨selector, resolved⟩ := selector_of_known coherent asked
    simp [columns, resolved, known, Except.map]
  case neg =>
    simp [columns, selector_single_of_unknown coherent known, known, Except.map, eq_comm]

theorem exists_columns_iff (coherent : registry.Coherent) {name : String} :
    (∃ columns, registry.columns [name] = .ok columns) ↔ registry.Knows name := by
  have fails (failure : Failure) : registry.columns [name] = .error failure ↔ _ :=
    columns_eq_error_iff coherent
  cases resolved : registry.columns [name] with
  | error failure => simp [((fails failure).mp resolved).1]
  | ok columns =>
    have known : registry.Knows name := by
      by_contra unknown
      cases resolved.symm.trans ((fails _).mpr ⟨unknown, rfl⟩)
    simp [known]

theorem columns_nil (coherent : registry.Coherent) (once : registry.defaultFields.Nodup) :
    registry.columns [] = .ok registry.defaultFields := by
  rw [columns, selector]
  exact (resolve_map_fields coherent.defaults).trans (by rw [eraseDups_of_nodup once])

theorem predicate_append (first second : List (String × String)) :
    (registry.predicate (first ++ second)).conditions =
      (registry.predicate first).conditions ++ (registry.predicate second).conditions := by
  rw [predicate, List.filterMap_append]
  rfl

theorem predicate_iff_filterable (before after : List (String × String)) (key value : String) :
    (∃ read, (registry.predicate (before ++ (key, value) :: after)).conditions =
        (registry.predicate before).conditions ++ (read, value) ::
          (registry.predicate after).conditions)
      ↔ key ∈ registry.filters.keys := by
  have split : (registry.predicate (before ++ (key, value) :: after)).conditions =
      (registry.predicate before).conditions ++ ((registry.filters.get? key).map fun read =>
        (read, value)).toList ++ (registry.predicate after).conditions := by
    rw [List.append_cons, predicate_append, predicate_append]
    rfl
  rw [split, ← Entries.has_iff_mem_keys, Entries.has]
  cases registry.filters.get? key <;> simp

theorem predicate_of_not_filterable (before after : List (String × String)) {key : String}
    (value : String) (absent : key ∉ registry.filters.keys) :
    registry.predicate (before ++ (key, value) :: after) = registry.predicate (before ++ after) := by
  rw [← Entries.has_iff_mem_keys, Entries.has] at absent
  have missing : registry.filters.get? key = none := by simpa using absent
  simp [predicate, List.filterMap_append, missing]

theorem sort_single_eq_error_iff (field : String) (direction : SortDirection) (items : List ι)
    (failure : Failure) :
    registry.sort [⟨field, direction⟩] items = .error failure ↔
      field ∉ registry.orders.keys ∧ failure = .notSortable field := by
  rw [← Entries.has_iff_mem_keys, Entries.has, sort, List.mapM_cons, sortStep]
  cases registry.orders.get? field <;> simp [bind, Except.bind, pure, Except.pure, eq_comm]

end Engine

section Dismissals

variable {schema : Schema σ ι} {query : Query}

theorem code_of_selector (coherent : schema.Coherent) {requested : List String} {failure : Failure}
    (failed : schema.selector requested = .error failure) : failure.code = .validation := by
  obtain ⟨before, name, after, -, -, -, rfl⟩ := (selector_eq_error_iff coherent).mp failed
  rfl

theorem misses_unknownOperation_iff (coherent : schema.Coherent) :
    schema.Misses query (.unknownOperation query.operation.text) ↔
      query.operation.text ∉ schema.operations.keys := by
  rw [← Entries.has_iff_mem_keys, Entries.has]
  generalize reported : Failure.unknownOperation query.operation.text = failure
  constructor
  · rintro (missing | ⟨known, failed⟩)
    · simp [missing]
    · rw [← reported] at failed
      cases code_of_selector coherent failed
  · intro missing
    subst reported
    exact .operation (by simpa using missing)

theorem misses_unknownField_iff (coherent : schema.Coherent)
    (known : query.operation.text ∈ schema.operations.keys) {name : String}
    (asked : query.requestedFields = [name]) :
    schema.Misses query (.unknownField name) ↔ ¬ schema.Knows name := by
  rw [← Entries.has_iff_mem_keys] at known
  obtain ⟨operation, known⟩ := Option.isSome_iff_exists.mp known
  constructor
  · generalize Failure.unknownField name = failure
    rintro (missing | ⟨_, failed⟩)
    · rw [known] at missing
      cases missing
    · rw [asked] at failed
      have stopped : schema.columns [name] = .error failure := by
        rw [columns, failed]
        rfl
      exact ((columns_eq_error_iff coherent).mp stopped).1
  · intro unknown
    refine .fields known ?_
    rw [asked]
    exact selector_single_of_unknown coherent unknown

theorem Refuses.missing {options : MutationOptions} {failure : Failure}
    (refuses : schema.Refuses options query .notFound failure) :
    schema.mutations.get? query.operation.text = none := by
  cases refuses with
  | unknown missing => exact missing
  | arguments _ _ _ _ _ reported => simp at reported

theorem Refuses.withheld {options : MutationOptions} {failure : Failure}
    (refuses : schema.Refuses options query .forbidden failure) :
    options.confirmed = false ∧ ∃ mutation,
      schema.mutations.get? query.operation.text = some mutation ∧ mutation.isDestructive = true := by
  cases refuses with
  | unconfirmed known destructive withheld => exact ⟨withheld, _, known, destructive⟩
  | arguments _ _ _ _ _ reported => simp at reported

theorem refuses_unknownMutation_iff {options : MutationOptions} :
    (∃ code, schema.Refuses options query code (.unknownMutation query.operation.text)) ↔
      query.operation.text ∉ schema.mutations.keys := by
  rw [← Entries.has_iff_mem_keys, Entries.has]
  constructor
  · rintro ⟨code, refuses⟩
    have reported : .notFound = code := refuses.code_eq
    subst reported
    simp [refuses.missing]
  · intro missing
    exact ⟨_, .unknown (by simpa using missing)⟩

theorem refuses_unconfirmed_iff {options : MutationOptions} :
    (∃ code, schema.Refuses options query code (.unconfirmed query.operation.text)) ↔
      options.confirmed = false ∧ ∃ mutation,
        schema.mutations.get? query.operation.text = some mutation
          ∧ mutation.isDestructive = true := by
  constructor
  · rintro ⟨code, refuses⟩
    have reported : .forbidden = code := refuses.code_eq
    subst reported
    exact refuses.withheld
  · rintro ⟨withheld, mutation, known, destructive⟩
    exact ⟨_, .unconfirmed known destructive withheld⟩

end Dismissals

theorem sortedNames_pairwise_bytes {names : List String} (once : names.Nodup) :
    (sortedNames names).Pairwise fun left right => Text.bytes left < Text.bytes right := by
  have sorted : (sortedNames names).Pairwise fun left right => left ≤ right := by
    have pairwise : (sortedNames names).Pairwise fun left right => decide (left ≤ right) :=
      List.pairwise_mergeSort (by simpa using fun _ _ _ => String.le_trans)
        (by simpa using String.le_total) names
    simpa using pairwise
  refine (sorted.and (nodup_sortedNames once)).imp fun ⟨order, different⟩ => ?_
  apply Text.bytes_lt_of_lt
  exact String.not_le.mp fun back => different (String.le_antisymm order back)

theorem catalog_introspect (schema : Schema σ ι) :
    schema.catalog.introspect = schema.introspect := by
  have operations : schema.catalog.operations.keys = schema.operations.keys := by
    simp [catalog, Entries.keys]
  have mutations : schema.catalog.mutations.keys = schema.mutations.keys := by
    simp [catalog, Entries.keys]
  unfold introspect
  rw [operations, mutations]
  simp only [get?_catalog_operations, get?_catalog_mutations, Option.bind_map]
  rfl

theorem get?_destructive_toJson (metadata : MutationMetadata) :
    ∃ entries, metadata.toJson = .object entries
      ∧ Entries.get? entries "destructive" = some (.bool metadata.destructive) := by
  have absent : Entries.get? metadata.entries "destructive" = none := by
    simp only [Metadata.entries, Entries.get?_append, Option.or_eq_none_iff]
    refine ⟨⟨?_, ?_⟩, ?_⟩
    · unfold Json.textEntry
      split <;> rfl
    · unfold Json.listEntry
      split <;> rfl
    · unfold Json.listEntry
      split <;> rfl
  refine ⟨_, rfl, ?_⟩
  rw [Entries.get?_append, absent]
  rfl

theorem distinct_of_build {registrations : List (Registration σ ι)} {schema : Schema σ ι}
    (built : (Draft.empty.registerAll registrations).build = .ok schema) : schema.Distinct := by
  have builds := Draft.builds_of_ok built
  have operations := (Namespace.operations_appends.holds registrations).once
  constructor
  · rw [builds.operations]
    exact Draft.nodup_keys_allOperations operations
  · rw [builds.mutations]
    exact (Namespace.mutations_appends.holds registrations).once
  · rw [builds.presets]
    exact (Namespace.presets_appends.holds registrations).once

end Registry

/-- What a document tells about the engine: the names that it lists are those that queries may use. -/
structure Document.Tells {σ ι : Type} (document : Document) (schema : Schema σ ι) : Prop where
  operationsIncrease :
    document.operations.Pairwise fun left right => Text.bytes left < Text.bytes right
  mutationsIncrease :
    document.mutations.Pairwise fun left right => Text.bytes left < Text.bytes right
  operations : ∀ source batch (state : σ) index query, Batch.parse source = .ok batch →
    batch.queries[index]? = some query →
    (query.operation.text ∈ document.operations ↔
      ¬ schema.Dismisses .read source state index (.unknownOperation query.operation.text))
  mutations : ∀ options source batch (state : σ) index query, Batch.parse source = .ok batch →
    batch.queries[index]? = some query →
    (query.operation.text ∈ document.mutations ↔
      ¬ schema.Dismisses (.mutate options) source state index
        (.unknownMutation query.operation.text))
  operationMetadata : document.operationMetadata.keys =
    document.operations.filter fun name => (schema.operationMetadata? name).isSome
  mutationMetadata : document.mutationMetadata.keys =
    document.mutations.filter fun name => (schema.mutationMetadata? name).isSome
  confirmation : ∀ options source batch (state : σ) index query, Batch.parse source = .ok batch →
    batch.queries[index]? = some query →
    (schema.Dismisses (.mutate options) source state index (.unconfirmed query.operation.text) ↔
      options.confirmed = false ∧ ∃ entries,
        document.mutationMetadata.get? query.operation.text = some (.object entries)
          ∧ Entries.get? entries "destructive" = some (.bool true))
  knownFields : ∀ name, (∃ columns, schema.columns [name] = .ok columns) ↔
    name ∈ document.fields ∨ name ∈ document.presets.keys
  field : ∀ name ∈ document.fields, schema.columns [name] = .ok [name]
  preset : ∀ name fields, document.presets.get? name = some fields →
    schema.columns [name] = .ok fields.eraseDups
  unknownFields : ∀ source batch (state : σ) index query name, Batch.parse source = .ok batch →
    batch.queries[index]? = some query → query.operation.text ∈ document.operations →
    query.requestedFields = [name] →
    (schema.Dismisses .read source state index (.unknownField name) ↔
      ¬ (name ∈ document.fields ∨ name ∈ document.presets.keys))
  defaultFields : ∀ query : Query, query.fields = none →
    schema.columns query.requestedFields = .ok document.defaultFields
  filterableFields : ∀ before key value after,
    (∃ read, (schema.predicate (before ++ (key, value) :: after)).conditions =
      (schema.predicate before).conditions ++ (read, value) :: (schema.predicate after).conditions)
      ↔ key ∈ document.filterableFields
  otherKeys : ∀ before key value after, key ∉ document.filterableFields →
    schema.predicate (before ++ (key, value) :: after) = schema.predicate (before ++ after)
  predicates : ∀ query selector dryRun,
    let read := Request.ofRead schema.catalog query selector
    let mutation := Request.ofMutation schema.catalog query selector dryRun
    read.predicate = schema.predicate read.named
      ∧ (∀ key, read.named.get? key = query.namedParam? key)
      ∧ mutation.predicate = schema.predicate mutation.named
      ∧ ∀ key, key ≠ Request.dryRunKey → mutation.named.get? key = query.namedParam? key
  sortableFields : ∀ field direction items,
    (∃ failure, schema.sort [⟨field, direction⟩] items = .error failure) ↔
      field ∉ document.sortableFields

namespace Registry

variable {σ ι : Type}

theorem mutationMetadata?_destructive_iff {schema : Schema σ ι} {name : String} :
    (∃ entries, schema.document.mutationMetadata.get? name = some (.object entries)
        ∧ Entries.get? entries "destructive" = some (.bool true))
      ↔ ∃ mutation, schema.mutations.get? name = some mutation ∧ mutation.isDestructive = true := by
  simp only [document, Entries.get?_ofNames, mutationMetadata?, mem_sortedNames,
    ← Entries.has_iff_mem_keys, Entries.has]
  cases known : schema.mutations.get? name with
  | none => simp
  | some mutation =>
    cases declared : mutation.metadata with
    | none => simp [Mutation.isDestructive, declared]
    | some metadata =>
      obtain ⟨entries, written, destructive⟩ := get?_destructive_toJson metadata
      simp [Mutation.isDestructive, declared, written, destructive]

theorem predicate_ofMutation (schema : Schema σ ι) (query : Query) (selector : Selector ι)
    (dryRun : Bool) :
    let mutation := Request.ofMutation schema.catalog query selector dryRun
    mutation.predicate = schema.predicate mutation.named := by
  rw [Request.ofMutation_eq]
  rfl

/-- Whatever is registered, and whichever registrations fail: the self-description of the schema,
also as the schema's own operation gives it, lists what the engine takes. -/
theorem introspect_tells {registrations : List (Registration σ ι)} {schema : Schema σ ι}
    (built : (Draft.empty.registerAll registrations).build = .ok schema) :
    schema.introspect = schema.document.toJson
      ∧ schema.catalog.introspect = schema.document.toJson ∧ schema.document.Tells schema := by
  have coherent := coherent_of_build built
  have distinct := distinct_of_build built
  have builds := Draft.builds_of_ok built
  have described := introspect_eq_toJson distinct
  refine ⟨described, (catalog_introspect schema).trans described, ?_⟩
  have knows (name : String) : schema.Knows name ↔
      name ∈ schema.document.fields ∨ name ∈ schema.document.presets.keys := by
    rw [Knows, Entries.has_iff_mem_keys, Entries.has_iff_mem_keys]
    rfl
  constructor
  case operationsIncrease => exact sortedNames_pairwise_bytes distinct.operations
  case mutationsIncrease => exact sortedNames_pairwise_bytes distinct.mutations
  case operations =>
    intro source batch state index query parsed located
    rw [dismisses_iff_bars coherent parsed located, Bars, misses_unknownOperation_iff coherent,
      Classical.not_not]
    exact mem_sortedNames
  case mutations =>
    intro options source batch state index query parsed located
    rw [dismisses_iff_bars coherent parsed located, Bars, refuses_unknownMutation_iff,
      Classical.not_not]
    exact mem_sortedNames
  case operationMetadata =>
    simp only [document, Entries.keys_ofNames, Option.isSome_map]
  case mutationMetadata =>
    simp only [document, Entries.keys_ofNames, Option.isSome_map]
  case confirmation =>
    intro options source batch state index query parsed located
    rw [dismisses_iff_bars coherent parsed located, Bars, refuses_unconfirmed_iff,
      mutationMetadata?_destructive_iff]
  case knownFields =>
    intro name
    rw [← knows name]
    exact exists_columns_iff coherent
  case field =>
    intro name member
    have field : schema.fields.has name = true := (Entries.has_iff_mem_keys _ _).mpr member
    refine columns_of_field field ?_
    have apart := (Draft.wellFormed_registerAll registrations).apart name
    rw [← builds.fields, ← builds.presets] at apart
    simpa [field] using apart
  case preset => exact fun name fields preset => columns_of_preset coherent preset
  case unknownFields =>
    intro source batch state index query name parsed located operation asked
    rw [dismisses_iff_bars coherent parsed located, Bars, ← knows name]
    exact misses_unknownField_iff coherent (mem_sortedNames.mp operation) asked
  case defaultFields =>
    intro query bare
    have requested : query.requestedFields = [] := by rw [Query.requestedFields, bare]
    rw [requested]
    exact columns_nil coherent (Draft.nodup_resolveDefaults
      (Namespace.fields_appends.holds registrations).once builds.defaults)
  case filterableFields => exact fun before key value after =>
    predicate_iff_filterable before after key value
  case otherKeys => exact fun before key value after absent =>
    predicate_of_not_filterable before after value absent
  case predicates =>
    intro query selector dryRun
    exact ⟨rfl, Request.ofRead_arg? schema.catalog query selector,
      predicate_ofMutation schema query selector dryRun,
      fun _ other => Request.ofMutation_arg? schema.catalog query selector dryRun other⟩
  case sortableFields =>
    intro field direction items
    simp only [sort_single_eq_error_iff]
    constructor
    · rintro ⟨_, absent, _⟩
      exact absent
    · exact fun absent => ⟨_, absent, rfl⟩

theorem introspect_tells_tasks :
    let source := "delete(task-1)"
    Task.schema.introspect = Task.schema.document.toJson
      ∧ "status" ∈ Task.schema.document.fields ∧ Task.schema.columns ["status"] = .ok ["status"]
      ∧ ∀ store, Task.schema.Dismisses (.mutate ⟨false, true⟩) source store 0
        (.unconfirmed "delete") := by
  have built : (Draft.empty.registerAll Task.registrations).build = .ok Task.schema := rfl
  obtain ⟨batch, parsed, calls⟩ : ∃ batch, Batch.parse "delete(task-1)" = .ok batch
      ∧ batch.calls = [⟨"delete", [⟨none, .word "task-1"⟩], none⟩] :=
    Batch.parse_of_calls (by decide +kernel)
  obtain ⟨deletion, located, call⟩ := Batch.query_of_calls calls 0 rfl
  have name : deletion.operation.text = "delete" := congrArg Call.operation call
  obtain ⟨described, -, tells⟩ := introspect_tells built
  have listed : "status" ∈ Task.schema.document.fields := by decide
  refine ⟨described, listed, tells.field "status" listed, fun store => ?_⟩
  rw [← name]
  apply (tells.confirmation ⟨false, true⟩ _ batch store 0 deletion parsed located).mpr
  rw [name]
  exact ⟨rfl, mutationMetadata?_destructive_iff.mpr ⟨_, rfl, rfl⟩⟩

end Registry

end Inquiry
