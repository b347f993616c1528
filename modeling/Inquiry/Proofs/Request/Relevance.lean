import Inquiry.Proofs.Query.Call
import Inquiry.Proofs.Registry.Document
import Inquiry.Proofs.Request.Handler
import Inquiry.Proofs.Request.Paging

set_option autoImplicit false

namespace Inquiry

def asksOrder (key : String) : Bool := "sort_".toList.isPrefixOf key.toList

theorem SortSpec.fieldOf?_eq_none_iff {key : String} :
    fieldOf? key = none ↔ asksOrder key = false := by
  rw [asksOrder, ← Bool.not_eq_true]
  simp only [fieldOf?, ite_eq_right_iff, reduceCtorEq, imp_false]

def Call.sortKeys (call : Call) : List String := (call.named.map Prod.fst).filter asksOrder

structure Registry.Ignores {σ ι η : Type} (registry : Registry σ ι η) (key : String) : Prop where
  filter : registry.filters.has key = false
  order : asksOrder key = false
  skip : key ≠ "skip"
  take : key ≠ "take"

theorem Entries.get?_of_perm {α : Type} {entries others : Entries α} (perm : others.Perm entries)
    (once : entries.keys.Nodup) (key : String) : others.get? key = entries.get? key := by
  have alsoOnce : others.keys.Nodup := (perm.map Prod.fst).nodup_iff.mpr once
  apply Option.ext
  intro value
  rw [← mem_iff_get? alsoOnce, ← mem_iff_get? once]
  exact perm.mem_iff

theorem Registry.accepts_predicate_of_perm {σ ι η : Type} (registry : Registry σ ι η)
    {params others : List (String × String)} (perm : others.Perm params) (item : ι) :
    (registry.predicate others).accepts item = (registry.predicate params).accepts item := by
  rw [Bool.eq_iff_iff, accepts_predicate_iff_forall_mem, accepts_predicate_iff_forall_mem]
  exact forall_congr' fun entry => imp_congr_left perm.mem_iff

namespace Request

variable {σ ι : Type}

structure Agrees (request other : Request σ ι) : Prop where
  pipeline : ∀ items, request.applyPipeline items = other.applyPipeline items
  count : ∀ items, request.predicate.count items = other.predicate.count items

section

variable {request other : Request σ ι}

theorem agrees_of_parts (catalog : request.catalog = other.catalog)
    (specs : request.sortSpecs = other.sortSpecs) (skip : request.arg? "skip" = other.arg? "skip")
    (take : request.arg? "take" = other.arg? "take")
    (accepts : request.predicate.accepts = other.predicate.accepts) : request.Agrees other where
  pipeline items := by
    simp only [applyPipeline, page, Predicate.filter, catalog, specs, skip, take, accepts]
  count items := by rw [Predicate.count, Predicate.count, accepts]

structure SelectsBy (request : Request σ ι) (catalog : Catalog σ ι) (named : Entries String) :
    Prop where
  catalog_eq : request.catalog = catalog
  named_eq : request.named = named
  predicate_eq : request.predicate = catalog.predicate named

variable {catalog : Catalog σ ι} {named others : Entries String}

theorem SelectsBy.agrees_of_filter (selects : request.SelectsBy catalog named)
    (alsoSelects : other.SelectsBy catalog others) (keep : String → Bool)
    (idle : ∀ key, keep key = false → catalog.Ignores key)
    (same : (named.filter fun entry => keep entry.1) = others.filter fun entry => keep entry.1) :
    request.Agrees other := by
  have noOrder (params : Entries String) :
      SortSpec.ofParams (params.filter fun entry => keep entry.1) = SortSpec.ofParams params :=
    SortSpec.ofParams_filter keep fun param _ dropped =>
      SortSpec.fieldOf?_eq_none_iff.mpr (idle param.1 dropped).order
  have noFilter (params : Entries String) :
      catalog.predicate (params.filter fun entry => keep entry.1) = catalog.predicate params :=
    catalog.predicate_filter keep fun param _ dropped => (idle param.1 dropped).filter
  have kept {key : String} (used : ¬ catalog.Ignores key) : named.get? key = others.get? key := by
    have keeps : keep key = true := Bool.not_eq_false _ |>.mp fun dropped => used (idle key dropped)
    have filtered (params : Entries String) :
        Entries.get? (params.filter fun entry => keep entry.1) key = params.get? key := by
      rw [Entries.get?_filter, if_pos keeps]
    rw [← filtered named, same, filtered others]
  apply agrees_of_parts
  · rw [selects.catalog_eq, alsoSelects.catalog_eq]
  · rw [sortSpecs, sortSpecs, selects.named_eq, alsoSelects.named_eq, ← noOrder named, same, noOrder]
  · rw [arg?, arg?, selects.named_eq, alsoSelects.named_eq, kept fun ignored => ignored.skip rfl]
  · rw [arg?, arg?, selects.named_eq, alsoSelects.named_eq, kept fun ignored => ignored.take rfl]
  · rw [selects.predicate_eq, alsoSelects.predicate_eq, ← noFilter named, same, noFilter]

theorem SelectsBy.agrees_of_perm (selects : request.SelectsBy catalog named)
    (alsoSelects : other.SelectsBy catalog others) (perm : others.Perm named)
    (once : named.keys.Nodup) (order : others.keys.filter asksOrder = named.keys.filter asksOrder) :
    request.Agrees other := by
  have get? := Entries.get?_of_perm perm once
  -- Of distinct keys the values are known, so the directives agree with their order.
  have directives : (named.filter fun entry => asksOrder entry.1) =
      others.filter fun entry => asksOrder entry.1 := by
    have keys (params : Entries String) : Entries.keys (params.filter fun entry =>
        asksOrder entry.1) = params.keys.filter asksOrder := by
      simp [Entries.keys, List.filter_map, Function.comp_def]
    apply Entries.eq_of_get?
    · rw [keys]
      exact once.filter _
    · rw [keys, keys, order]
    · intro key
      rw [Entries.get?_filter, Entries.get?_filter, get? key]
  have onlyOrder (params : Entries String) :
      SortSpec.ofParams (params.filter fun entry => asksOrder entry.1) =
        SortSpec.ofParams params :=
    SortSpec.ofParams_filter asksOrder fun _ _ dropped => SortSpec.fieldOf?_eq_none_iff.mpr dropped
  apply agrees_of_parts
  · rw [selects.catalog_eq, alsoSelects.catalog_eq]
  · rw [sortSpecs, sortSpecs, selects.named_eq, alsoSelects.named_eq, ← onlyOrder named, directives,
      onlyOrder]
  · rw [arg?, arg?, selects.named_eq, alsoSelects.named_eq, get?]
  · rw [arg?, arg?, selects.named_eq, alsoSelects.named_eq, get?]
  · rw [selects.predicate_eq, alsoSelects.predicate_eq]
    exact funext fun item => (catalog.accepts_predicate_of_perm perm item).symm

end

section

variable (catalog : Catalog σ ι) (query : Query) (selector : Selector ι) (dryRun : Bool)

theorem ofRead_selectsBy :
    (ofRead catalog query selector).SelectsBy catalog (Entries.ofPairs query.call.named) := by
  rw [← query.namedParams_eq_named]
  exact ⟨rfl, rfl, rfl⟩

theorem ofMutation_selectsBy :
    (ofMutation catalog query selector dryRun).SelectsBy catalog
      ((Entries.ofPairs query.call.named).filter fun entry =>
        !(query.asksDryRun && entry.1 == dryRunKey)) := by
  rw [ofMutation_eq, ← query.namedParams_eq_named]
  exact ⟨rfl, rfl, rfl⟩

end

theorem asksDryRun_congr {query other : Query}
    (same : query.namedParam? dryRunKey = other.namedParam? dryRunKey) :
    query.asksDryRun = other.asksDryRun := congrArg (Option.any _) same

/-- However the queries are answered, by a read or by a mutation, it is by the same elements. -/
def AnswersAlike (schema : Schema σ ι) (query other : Query) : Prop :=
  ∀ selector otherSelector,
    (ofRead schema.catalog query selector).Agrees (ofRead schema.catalog other otherSelector)
      ∧ ∀ dryRun otherDryRun, (ofMutation schema.catalog query selector dryRun).Agrees
        (ofMutation schema.catalog other otherSelector otherDryRun)

variable {schema : Schema σ ι} {query other : Query}

theorem namedParam?_eq (query : Query) (key : String) :
    query.namedParam? key = (Entries.ofPairs query.call.named).get? key := by
  rw [Entries.get?_ofPairs, ← query.namedParams_eq_named]
  rfl

theorem answersAlike_of_filter (keep : String → Bool)
    (idle : ∀ key, keep key = false → schema.catalog.Ignores key)
    (same : (query.call.named.filter fun param => keep param.1) =
      other.call.named.filter fun param => keep param.1) : AnswersAlike schema query other := by
  have entries : ((Entries.ofPairs query.call.named).filter fun entry => keep entry.1) =
      (Entries.ofPairs other.call.named).filter fun entry => keep entry.1 := by
    rw [Entries.filter_ofPairs, Entries.filter_ofPairs, same]
  intro selector otherSelector
  constructor
  · exact (ofRead_selectsBy _ _ _).agrees_of_filter (ofRead_selectsBy _ _ _) keep idle entries
  · intro dryRun otherDryRun
    apply (ofMutation_selectsBy _ _ _ _).agrees_of_filter (ofMutation_selectsBy _ _ _ _) keep idle
    -- Either both ask for a dry run, or it does not matter whether they do.
    cases kept : keep dryRunKey with
    | true =>
      have last : query.namedParam? dryRunKey = other.namedParam? dryRunKey := by
        have filtered (params : Entries String) :
            Entries.get? (params.filter fun entry => keep entry.1) dryRunKey =
              params.get? dryRunKey := by
          rw [Entries.get?_filter, if_pos kept]
        rw [namedParam?_eq, namedParam?_eq, ← filtered, entries, filtered]
      rw [asksDryRun_congr last, List.filter_comm, entries, List.filter_comm]
    | false =>
      have without (asks : Bool) (params : Entries String) :
          ((params.filter fun entry => !(asks && entry.1 == dryRunKey)).filter fun entry =>
            keep entry.1) = params.filter fun entry => keep entry.1 := by
        rw [List.filter_filter]
        apply List.filter_congr
        intro entry _
        by_cases named : entry.1 = dryRunKey
        · simp [named, kept]
        · simp [named]
      rw [without, without, entries]

theorem answersAlike_of_perm (perm : other.call.named.Perm query.call.named)
    (once : (query.call.named.map Prod.fst).Nodup)
    (order : other.call.sortKeys = query.call.sortKeys) : AnswersAlike schema query other := by
  have alsoOnce : (other.call.named.map Prod.fst).Nodup := (perm.map Prod.fst).nodup_iff.mpr once
  have dryRun : query.asksDryRun = other.asksDryRun := by
    apply asksDryRun_congr
    rw [namedParam?_eq, namedParam?_eq, Entries.ofPairs_of_nodup once,
      Entries.ofPairs_of_nodup alsoOnce, Entries.get?_of_perm perm once]
  intro selector otherSelector
  have read := ofRead_selectsBy schema.catalog query selector
  have otherRead := ofRead_selectsBy schema.catalog other otherSelector
  rw [Entries.ofPairs_of_nodup once] at read
  rw [Entries.ofPairs_of_nodup alsoOnce] at otherRead
  refine ⟨read.agrees_of_perm otherRead perm once order, fun dry otherDry => ?_⟩
  have mutation := ofMutation_selectsBy schema.catalog query selector dry
  have otherMutation := ofMutation_selectsBy schema.catalog other otherSelector otherDry
  rw [Entries.ofPairs_of_nodup once, dryRun] at mutation
  rw [Entries.ofPairs_of_nodup alsoOnce] at otherMutation
  have keys (params : Entries String) (asks : Bool) :
      Entries.keys (params.filter fun entry => !(asks && entry.1 == dryRunKey)) =
        params.keys.filter fun key => !(asks && key == dryRunKey) := by
    simp [Entries.keys, List.filter_map, Function.comp_def]
  refine mutation.agrees_of_perm otherMutation (perm.filter _) ?_ ?_
  · rw [keys]
    exact once.filter _
  · rw [keys, keys, List.filter_comm, List.filter_comm (p := asksOrder)]
    exact congrArg _ order

/-- An argument that is positional, or whose key is ignored, may stand anywhere among the others or
not at all; and arguments of distinct keys may change places, as long as the sort directives keep
their order. -/
theorem answersAlike_of_relevant (schema : Schema σ ι) (query other : Query) :
    (∀ before argument after, query.call.arguments = before ++ after →
      other.call.arguments = before ++ argument :: after →
      (∀ key, argument.key = some key → schema.Ignores key) → AnswersAlike schema query other)
    ∧ ((query.call.named.map Prod.fst).Nodup →
      other.call.arguments.Perm query.call.arguments →
      other.call.sortKeys = query.call.sortKeys → AnswersAlike schema query other) := by
  constructor
  · intro before argument after whole inserted ignored
    obtain ⟨key, value⟩ := argument
    cases key with
    | none =>
      refine answersAlike_of_filter (fun _ => true) (fun _ => nofun) ?_
      simp [Call.named, whole, inserted]
    | some key =>
      have idle := ignored key rfl
      refine answersAlike_of_filter (fun name => name != key) ?_ ?_
      · intro name dropped
        obtain rfl : name = key := by simpa using dropped
        exact ⟨idle.filter, idle.order, idle.skip, idle.take⟩
      · simp [Call.named, whole, inserted]
  · intro once perm order
    exact answersAlike_of_perm (perm.filterMap _) once order

theorem answersAlike_of_relevant_tasks :
    let list := fun arguments => (⟨"list", arguments, none⟩ : Call).query
    let given := fun key value => (⟨some key, .word value⟩ : Argument)
    let first := list [given "status" "todo", given "sort_priority" "desc", given "sort_id" "asc",
      given "take" "2"]
    AnswersAlike Task.schema first (list [given "status" "todo", ⟨none, .literal "take"⟩,
        given "sort_priority" "desc", given "sort_id" "asc", given "take" "2"])
      ∧ AnswersAlike Task.schema first (list [given "status" "todo", given "sort_priority" "desc",
        given "sort_id" "asc", given "take" "2", given "colour" "red"])
      ∧ AnswersAlike Task.schema first (list [given "take" "2", given "sort_priority" "desc",
        given "status" "todo", given "sort_id" "asc"]) := by
  intro list given first
  refine ⟨?_, ?_, ?_⟩
  · refine (answersAlike_of_relevant Task.schema first _).1 [given "status" "todo"] _ _ rfl rfl ?_
    exact fun key => nofun
  · refine (answersAlike_of_relevant Task.schema first _).1 first.call.arguments _ [] rfl rfl ?_
    rintro key ⟨⟩
    exact ⟨rfl, by decide, by decide, by decide⟩
  · exact (answersAlike_of_relevant Task.schema first _).2 (by decide) (by decide) (by decide)

end Request

end Inquiry
