import Inquiry.Request

set_option autoImplicit false

namespace Inquiry

namespace Entries

variable {α : Type}

-- The map that the pairs are put into counts only for keys that none of them has.
theorem get?_foldl_put (pairs : List (String × α)) (entries : Entries α) (key : String) :
    get? (pairs.foldl (fun entries (name, value) => put entries name value) entries) key =
      ((pairs.filter fun pair => pair.1 = key).map Prod.snd).getLast?.or (get? entries key) := by
  induction pairs generalizing entries with
  | nil => simp
  | cons pair rest ih =>
    obtain ⟨name, value⟩ := pair
    rw [List.foldl_cons, ih]
    by_cases same : name = key
    · subst same
      simp [List.getLast?_cons]
    · have different : key ≠ name := fun equal => same equal.symm
      simp [same, different]

theorem get?_ofPairs (pairs : List (String × α)) (key : String) :
    get? (ofPairs pairs) key =
      ((pairs.filter fun pair => pair.1 = key).map Prod.snd).getLast? := by
  rw [ofPairs, get?_foldl_put, get?_nil, Option.or_none]

section

variable (keep : String → Bool)

theorem filter_put (entries : Entries α) (key : String) (value : α) :
    (put entries key value).filter (fun entry => keep entry.1) =
      if keep key then put (entries.filter fun entry => keep entry.1) key value
      else entries.filter fun entry => keep entry.1 := by
  induction entries with
  | nil => cases kept : keep key <;> simp [put, kept]
  | cons entry rest ih =>
    obtain ⟨name, old⟩ := entry
    by_cases same : name = key
    · subst same
      cases kept : keep name <;> simp [put, kept]
    · cases kept : keep name <;> cases wanted : keep key <;>
        simp_all [put]

theorem filter_foldl_put (pairs : List (String × α)) (entries : Entries α) :
    (pairs.foldl (fun entries (name, value) => put entries name value) entries).filter
        (fun entry => keep entry.1) =
      (pairs.filter fun pair => keep pair.1).foldl
        (fun entries (name, value) => put entries name value)
        (entries.filter fun entry => keep entry.1) := by
  induction pairs generalizing entries with
  | nil => rfl
  | cons pair rest ih =>
    obtain ⟨key, value⟩ := pair
    rw [List.foldl_cons, ih, filter_put]
    cases kept : keep key <;> simp [kept]

theorem filter_ofPairs (pairs : List (String × α)) :
    (ofPairs pairs).filter (fun entry => keep entry.1) =
      ofPairs (pairs.filter fun pair => keep pair.1) := filter_foldl_put keep pairs []

theorem get?_filter (entries : Entries α) (key : String) :
    get? (entries.filter fun entry => keep entry.1) key =
      if keep key then get? entries key else none := by
  induction entries with
  | nil => simp
  | cons entry rest ih =>
    obtain ⟨name, value⟩ := entry
    by_cases same : name = key
    · subst same
      cases kept : keep name <;> simp_all [get?]
    · cases kept : keep name <;> simp_all [get?]

end

end Entries

def Query.asksDryRun (query : Query) : Bool :=
  (query.namedParam? "dry_run").any fun value => ["true", "1", "yes"].contains value

namespace Request

variable {σ ι : Type} (catalog : Catalog σ ι) (query : Query) (selector : Selector ι)
  (dryRun : Bool)

theorem ofRead_arg? (key : String) :
    (ofRead catalog query selector).arg? key = query.namedParam? key :=
  Entries.get?_ofPairs query.namedParams key

theorem any_isTruthy :
    ((ofRead catalog query selector).named.get? dryRunKey).any isTruthy = query.asksDryRun := by
  have last := ofRead_arg? catalog query selector dryRunKey
  rw [arg?] at last
  rw [last, Query.asksDryRun]
  congr 1
  funext value
  rw [Bool.eq_iff_iff]
  simp [isTruthy, or_assoc]

theorem ofMutation_eq :
    let read := ofRead catalog query selector
    let named := read.named.filter fun entry => !(query.asksDryRun && entry.1 == dryRunKey)
    ofMutation catalog query selector dryRun =
      { read with
        named
        predicate := catalog.predicate named
        dryRun := query.asksDryRun || dryRun } := by
  rw [ofMutation, any_isTruthy]
  cases query.asksDryRun with
  | true => rfl
  | false =>
    have all : (ofRead catalog query selector).named.filter (fun _ => true) =
        (ofRead catalog query selector).named := List.filter_eq_self.mpr fun _ _ => rfl
    simp only [Bool.false_and, Bool.not_false, all]
    rfl

theorem ofMutation_dryRun :
    (ofMutation catalog query selector dryRun).dryRun = (query.asksDryRun || dryRun) := by
  rw [ofMutation_eq]

theorem ofMutation_arg? {key : String} (different : key ≠ dryRunKey) :
    (ofMutation catalog query selector dryRun).arg? key = query.namedParam? key := by
  rw [← ofRead_arg? catalog query selector key, ofMutation_eq, arg?, arg?,
    Entries.get?_filter fun name => !(query.asksDryRun && name == dryRunKey)]
  simp [different]

theorem ofMutation_positional? :
    (ofMutation catalog query selector dryRun).positional? = query.positionalParams.head? := by
  rw [ofMutation_eq]
  rfl

theorem arg?_of_requireArg {request : Request σ ι} {name value : String}
    (given : request.requireArg name = .ok value) : request.arg? name = some value := by
  unfold requireArg at given
  split at given
  next present =>
    cases given
    exact present
  next => cases given

theorem positional?_of_requirePositional {request : Request σ ι} {what value : String}
    (given : request.requirePositional what = .ok value) : request.positional? = some value := by
  unfold requirePositional at given
  split at given
  next present =>
    cases given
    exact present
  next => cases given

theorem ofMutation_selector : (ofMutation catalog query selector dryRun).selector = selector := by
  rw [ofMutation_eq]
  rfl

theorem ofMutation_eq_of_flag :
    ofMutation catalog query selector dryRun =
      { ofMutation catalog query selector false with dryRun := query.asksDryRun || dryRun } := by
  rw [ofMutation_eq, ofMutation_eq]

end Request

end Inquiry
