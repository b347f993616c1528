import Inquiry.Proofs.Execution.Sequence
import Inquiry.Proofs.Request.Selection
import Mathlib.Data.List.Forall2

set_option autoImplicit false

namespace Inquiry

namespace Entries

variable {α : Type}

/-- Each key once, where it is first given, with the value that it is given last. -/
structure LastGiven (entries : Entries α) (pairs : List (String × α)) : Prop where
  keys : FirstSeen (pairs.map Prod.fst) entries.keys
  values : ∀ key value, (key, value) ∈ entries ↔
    ∃ before after, pairs = before ++ (key, value) :: after ∧ key ∉ after.map Prod.fst

theorem keys_foldl_put (pairs : List (String × α)) (entries : Entries α) :
    keys (pairs.foldl (fun entries (key, value) => put entries key value) entries) =
      keys entries ++ ((pairs.map Prod.fst).filter fun key => key ∉ keys entries).eraseDups := by
  induction pairs generalizing entries with
  | nil => simp
  | cons pair rest ih =>
    obtain ⟨key, value⟩ := pair
    rw [List.foldl_cons, ih, keys_put, List.map_cons]
    by_cases known : key ∈ keys entries
    · simp [known]
    · have later : ((rest.map Prod.fst).filter fun name => name ∉ keys entries ++ [key]) =
          ((rest.map Prod.fst).filter fun name => name ∉ keys entries).filter fun name =>
            !name == key := by
        rw [List.filter_filter]
        apply List.filter_congr
        intro name _
        by_cases same : name = key <;> simp [same]
      rw [if_neg known, later, List.filter_cons_of_pos (by simpa using known), List.eraseDups_cons,
        List.append_assoc, List.singleton_append]

theorem keys_ofPairs (pairs : List (String × α)) :
    keys (ofPairs pairs) = (pairs.map Prod.fst).eraseDups := by
  rw [ofPairs, keys_foldl_put]
  simp [keys]

theorem getLast?_given_iff (pairs : List (String × α)) (key : String) (value : α) :
    ((pairs.filter fun pair => pair.1 = key).map Prod.snd).getLast? = some value ↔
      ∃ before after, pairs = before ++ (key, value) :: after ∧ key ∉ after.map Prod.fst := by
  induction pairs with
  | nil => simp
  | cons pair rest ih =>
    have split : (∃ before after, pair :: rest = before ++ (key, value) :: after
        ∧ key ∉ after.map Prod.fst) ↔
        (pair = (key, value) ∧ key ∉ rest.map Prod.fst)
          ∨ ∃ before after, rest = before ++ (key, value) :: after ∧ key ∉ after.map Prod.fst := by
      constructor
      · rintro ⟨before, after, same, absent⟩
        rcases List.cons_eq_append_iff.mp same with ⟨rfl, ⟨⟩⟩ | ⟨others, rfl, rfl⟩
        · exact .inl ⟨rfl, absent⟩
        · exact .inr ⟨others, after, rfl, absent⟩
      · rintro (⟨rfl, absent⟩ | ⟨before, after, rfl, absent⟩)
        · exact ⟨[], rest, rfl, absent⟩
        · exact ⟨pair :: before, after, rfl, absent⟩
    have absent_iff : key ∉ rest.map Prod.fst ↔
        (rest.filter fun pair => pair.1 = key).map Prod.snd = [] := by
      rw [List.map_eq_nil_iff, List.filter_eq_nil_iff, List.mem_map]
      simp only [decide_eq_true_eq, not_exists, not_and]
    obtain ⟨name, first⟩ := pair
    rw [split, ← ih, absent_iff]
    by_cases same : name = key
    · subst same
      rw [List.filter_cons_of_pos (by simp), List.map_cons, List.getLast?_cons]
      generalize (rest.filter fun pair => pair.1 = name).map Prod.snd = later
      cases last : later.getLast? with
      | none => simp [List.getLast?_eq_none_iff.mp last]
      | some final =>
        have nonempty : later ≠ [] := by
          rintro rfl
          cases last
        simp [nonempty]
    · rw [List.filter_cons_of_neg (by simpa using same)]
      simp [same]

theorem lastGiven_ofPairs (pairs : List (String × α)) : (ofPairs pairs).LastGiven pairs where
  keys := by
    rw [keys_ofPairs]
    exact firstSeen_eraseDups _
  values key value := by
    rw [mem_iff_get? (nodup_keys_ofPairs pairs), get?_ofPairs]
    exact getLast?_given_iff pairs key value

theorem get?_eq_none_iff {entries : Entries α} {key : String} :
    entries.get? key = none ↔ key ∉ entries.keys := by
  rw [← has_iff_mem_keys, has, Option.not_isSome_iff_eq_none]

theorem eq_of_get? {first second : Entries α} (once : first.keys.Nodup)
    (keys : first.keys = second.keys) (values : ∀ key, first.get? key = second.get? key) :
    first = second := by
  induction first generalizing second with
  | nil => simpa [Entries.keys] using keys.symm
  | cons entry rest ih =>
    cases second with
    | nil => cases keys
    | cons other others =>
      obtain ⟨name, value⟩ := entry
      obtain ⟨otherName, otherValue⟩ := other
      obtain ⟨rfl, later⟩ := List.cons.inj keys
      obtain ⟨new, distinct⟩ := List.nodup_cons.mp once
      have same : value = otherValue := by simpa [get?] using values name
      rw [same, ih distinct later]
      intro key
      by_cases isName : name = key
      · subst isName
        have alsoNew : name ∉ Entries.keys others := by rwa [Entries.keys, ← later]
        rw [get?_eq_none_iff.mpr new, get?_eq_none_iff.mpr alsoNew]
      · simpa [get?, isName] using values key

theorem ofPairs_overwritten (before : List (String × α)) {after : List (String × α)} {key : String}
    (again : key ∈ after.map Prod.fst) (old new : α) :
    ofPairs (before ++ (key, old) :: after) = ofPairs (before ++ (key, new) :: after) := by
  apply eq_of_get? (nodup_keys_ofPairs _)
  · simp [keys_ofPairs]
  · intro name
    rw [get?_ofPairs, get?_ofPairs, List.append_cons _ (key, old) after,
      List.append_cons _ (key, new) after]
    simp only [List.filter_append _ after, List.map_append]
    by_cases same : key = name
    · obtain ⟨pair, member, isKey⟩ := List.mem_map.mp again
      have later : (after.filter fun pair => pair.1 = name).map Prod.snd ≠ [] :=
        List.ne_nil_of_mem (List.mem_map_of_mem
          (List.mem_filter.mpr ⟨member, decide_eq_true (isKey.trans same)⟩))
      rw [List.getLast?_append_of_ne_nil _ later, List.getLast?_append_of_ne_nil _ later]
    · simp [same]

end Entries

def Call.Overwrites (call other : Call) : Prop :=
  ∃ before after key old new, call.arguments = before ++ ⟨some key, old⟩ :: after
    ∧ other = { call with arguments := before ++ ⟨some key, new⟩ :: after }
    ∧ ∃ later ∈ after, later.key = some key

namespace Request

variable {σ ι : Type}

/-- What a request shows of a query, but for the keys that are not kept: of the keyed parameters
each key with its last value, the other parameters as they stand, and a condition for each key that
is filterable. -/
structure Shows (request : Request σ ι) (filters : Entries (ι → String)) (query : Query)
    (keep : String → Bool) : Prop where
  named : request.named.LastGiven (query.namedParams.filter fun param => keep param.1)
  arg? : ∀ key, request.arg? key = if keep key then query.namedParam? key else none
  positional : request.positional = query.params.filterMap fun param =>
    match param.key with
    | none => some param.value.text
    | some _ => none
  predicate : List.Forall₂
    (fun entry condition => filters.get? entry.1 = some condition.1 ∧ entry.2 = condition.2)
    (request.named.filter fun entry => filters.has entry.1) request.predicate.conditions

theorem forall₂_conditions {η : Type} (registry : Registry σ ι η)
    (params : List (String × String)) :
    List.Forall₂ (fun entry condition =>
        registry.filters.get? entry.1 = some condition.1 ∧ entry.2 = condition.2)
      (params.filter fun entry => registry.filters.has entry.1)
      (registry.predicate params).conditions := by
  unfold Registry.predicate
  induction params with
  | nil => exact .nil
  | cons param rest ih =>
    obtain ⟨key, value⟩ := param
    cases located : registry.filters.get? key with
    | none => simpa [located, Entries.has] using ih
    | some read => simpa [located, Entries.has] using ih

section

variable (schema : Schema σ ι) (query : Query) (selector : Selector ι) (dryRun : Bool)

theorem shows_of_named {request : Request σ ι} {keep : String → Bool}
    (named : request.named = (Entries.ofPairs query.namedParams).filter fun entry => keep entry.1)
    (positional : request.positional = query.positionalParams)
    (predicate : request.predicate = schema.catalog.predicate request.named) :
    request.Shows schema.filters query keep where
  named := by
    rw [named, Entries.filter_ofPairs]
    exact Entries.lastGiven_ofPairs _
  arg? key := by
    rw [arg?, named, Entries.get?_filter, Entries.get?_ofPairs]
    rfl
  positional := by
    rw [positional, Query.positionalParams, ← List.filterMap_eq_map, List.filterMap_filter]
    congr
    funext param
    cases param.key <;> rfl
  predicate := by
    rw [predicate]
    exact forall₂_conditions schema.catalog request.named

theorem ofRead_shows :
    (ofRead schema.catalog query selector).Shows schema.filters query fun _ => true :=
  shows_of_named schema query (List.filter_eq_self.mpr fun _ _ => rfl).symm rfl rfl

theorem ofMutation_shows :
    (ofMutation schema.catalog query selector dryRun).Shows schema.filters query fun key =>
      !(query.asksDryRun && key == dryRunKey) := by
  rw [ofMutation_eq]
  exact shows_of_named schema query rfl rfl rfl

theorem ofRead_overwrites {other : Query} (overwrites : query.call.Overwrites other.call) :
    ofRead schema.catalog other selector = ofRead schema.catalog query selector := by
  obtain ⟨before, after, key, old, new, arguments, call, later, member, again⟩ := overwrites
  have name : other.operation.text = query.operation.text := congrArg Call.operation call
  have others : other.call.arguments = before ++ ⟨some key, new⟩ :: after :=
    congrArg Call.arguments call
  have positional : other.positionalParams = query.positionalParams := by
    rw [query.positionalParams_eq_positional, other.positionalParams_eq_positional,
      Call.positional, Call.positional, arguments, others]
    simp
  have named : Entries.ofPairs other.namedParams = Entries.ofPairs query.namedParams := by
    rw [query.namedParams_eq_named, other.namedParams_eq_named, Call.named, Call.named, arguments,
      others, List.filterMap_append, List.filterMap_append]
    have given : (key, later.value.text) ∈ Call.named ⟨"", after, none⟩ :=
      List.mem_filterMap.mpr ⟨later, member, by rw [again]; rfl⟩
    exact Entries.ofPairs_overwritten _ (List.mem_map_of_mem given) new.text old.text
  rw [ofRead, ofRead, ofArguments, ofArguments, name, positional, named]

/-- Of each key the last value is seen, where the key is first given. A mutation does not see the
key by which it asks for a dry run. -/
theorem arguments_shown :
    let read := ofRead schema.catalog query selector
    let mutation := ofMutation schema.catalog query selector dryRun
    let visible := fun key => !(query.asksDryRun && key == "dry_run")
    (read.Shows schema.filters query fun _ => true)
    ∧ mutation.Shows schema.filters query visible
    ∧ mutation.named = read.named.filter (fun entry => visible entry.1)
    ∧ read.dryRun = false ∧ mutation.dryRun = (query.asksDryRun || dryRun)
    ∧ ∀ other, query.call.Overwrites other.call →
      ofRead schema.catalog other selector = read
        ∧ ofMutation schema.catalog other selector dryRun = mutation
        ∧ ∀ purpose, schema.runQuery purpose other = schema.runQuery purpose query := by
  refine ⟨ofRead_shows schema query selector, ofMutation_shows schema query selector dryRun, ?_, rfl,
    ofMutation_dryRun schema.catalog query selector dryRun, fun other overwrites => ?_⟩
  · rw [ofMutation_eq]
    rfl
  · have read := fun selector => ofRead_overwrites schema query selector overwrites
    have call := overwrites
    obtain ⟨_, _, _, _, _, _, call, _⟩ := call
    have fields : other.requestedFields = query.requestedFields := by
      rw [other.requestedFields_eq_requested, query.requestedFields_eq_requested, call]
      rfl
    refine ⟨read selector, ?_, fun purpose => ?_⟩
    · rw [ofMutation, ofMutation, read selector]
    · exact schema.runQuery_of_ofRead purpose (congrArg Call.operation call) fields read

end

theorem arguments_shown_dry_run :
    let query := fun first => Call.query ⟨"update", [⟨none, .word "task-1"⟩, ⟨some "status", first⟩,
      ⟨some "dry_run", .word "no"⟩, ⟨some "status", .word "todo"⟩, ⟨some "dry_run", .word "yes"⟩],
      none⟩
    let mutation := fun query => ofMutation Task.schema.catalog query ⟨[]⟩ false
    let update := mutation (query (.word "done"))
    update.named = [("status", "todo")] ∧ update.predicate.conditions.map Prod.snd = ["todo"]
      ∧ update.dryRun = true ∧ mutation (query (.literal "no status")) = update := by
  intro query mutation update
  obtain ⟨-, -, named, -, dry, overwritten⟩ :=
    arguments_shown Task.schema (query (.word "done")) ⟨[]⟩ false
  have overwrites : (query (.word "done")).call.Overwrites (query (.literal "no status")).call := by
    rw [Call.call_query, Call.call_query]
    exact ⟨[⟨none, .word "task-1"⟩], _, "status", _, _, rfl, rfl, ⟨some "status", .word "todo"⟩,
      by simp, rfl⟩
  exact ⟨named.trans (by decide), by decide, dry, (overwritten _ overwrites).2.1⟩

end Request

end Inquiry
