import Inquiry.Proofs.Registry.Registration
import Inquiry.Proofs.Request.Arguments
import Mathlib.Data.List.Basic

set_option autoImplicit false

namespace Inquiry

namespace Entries

variable {α : Type}

theorem nodup_keys_put {entries : Entries α} (once : (keys entries).Nodup) (key : String)
    (value : α) : (keys (put entries key value)).Nodup := by
  rw [keys_put]
  split
  next => exact once
  next new =>
    rw [List.nodup_append]
    refine ⟨once, by simp, fun name member other last => ?_⟩
    rw [List.mem_singleton.mp last]
    exact fun same => new (same ▸ member)

theorem nodup_keys_foldl_put (pairs : List (String × α)) {entries : Entries α}
    (once : (keys entries).Nodup) :
    (keys (pairs.foldl (fun entries (key, value) => put entries key value) entries)).Nodup := by
  induction pairs generalizing entries with
  | nil => exact once
  | cons pair rest ih => exact ih (nodup_keys_put once pair.1 pair.2)

theorem nodup_keys_ofPairs (pairs : List (String × α)) : (keys (ofPairs pairs)).Nodup :=
  nodup_keys_foldl_put pairs List.nodup_nil

theorem mem_iff_get? {entries : Entries α} (once : (keys entries).Nodup) (key : String)
    (value : α) : (key, value) ∈ entries ↔ get? entries key = some value := by
  induction entries with
  | nil => simp
  | cons entry rest ih =>
    obtain ⟨name, first⟩ := entry
    obtain ⟨new, later⟩ := List.nodup_cons.mp once
    by_cases same : name = key
    · subst same
      have only : (name, value) ∉ rest :=
        fun member => new (List.mem_map.mpr ⟨_, member, rfl⟩)
      simp [get?, only, eq_comm]
    · simp [get?, same, Ne.symm same, ih later]

end Entries

namespace Registry

variable {σ ι η : Type} (registry : Registry σ ι η)

theorem accepts_predicate_iff_forall_mem (params : List (String × String)) (item : ι) :
    (registry.predicate params).accepts item = true ↔
      ∀ entry ∈ params, ∀ read ∈ registry.filters.get? entry.1,
        Text.equalIgnoringCase (read item) entry.2 = true := by
  rw [Predicate.accepts, List.all_eq_true]
  constructor
  next =>
    intro all entry member read filterable
    refine all (read, entry.2) (List.mem_filterMap.mpr ⟨entry, member, ?_⟩)
    exact congrArg (Option.map fun read => (read, entry.2)) filterable
  next =>
    intro each condition member
    obtain ⟨entry, present, made⟩ := List.mem_filterMap.mp member
    obtain ⟨read, filterable, rfl⟩ := Option.map_eq_some_iff.mp made
    exact each entry present read filterable

theorem accepts_predicate_iff {params : Entries String} (once : params.keys.Nodup) (item : ι) :
    (registry.predicate params).accepts item = true ↔
      ∀ key read value, registry.filters.get? key = some read → params.get? key = some value →
        Text.equalIgnoringCase (read item) value = true := by
  rw [accepts_predicate_iff_forall_mem]
  constructor
  next =>
    intro all key read value filterable given
    exact all (key, value) ((Entries.mem_iff_get? once key value).mpr given) read filterable
  next =>
    intro each entry present read filterable
    exact each entry.1 read entry.2 filterable ((Entries.mem_iff_get? once _ _).mp present)

end Registry

structure FirstSeen (values distinct : List String) : Prop where
  members : ∀ value, value ∈ distinct ↔ value ∈ values
  once : distinct.Nodup
  ordered : distinct.Pairwise fun earlier later => values.idxOf earlier < values.idxOf later

theorem idxOf_lt_of_filter {keep : String → Bool} {values : List String} {first second : String}
    (keepsFirst : keep first = true) (keepsSecond : keep second = true)
    (before : (values.filter keep).idxOf first < (values.filter keep).idxOf second) :
    values.idxOf first < values.idxOf second := by
  induction values with
  | nil => exact before
  | cons value rest ih =>
    by_cases isSecond : value = second
    · subst isSecond
      simp [List.filter_cons_of_pos keepsSecond] at before
    · by_cases isFirst : value = first
      · subst isFirst
        simp [List.idxOf_cons_ne rest isSecond]
      · have later : (rest.filter keep).idxOf first < (rest.filter keep).idxOf second := by
          rw [List.filter_cons] at before
          split at before
          · simpa [isFirst, isSecond] using before
          · exact before
        simpa [isFirst, isSecond] using ih later

theorem ordered_eraseDups : ∀ values : List String,
    values.eraseDups.Pairwise fun earlier later => values.idxOf earlier < values.idxOf later
  | [] => .nil
  | value :: rest => by
    have others : ∀ other ∈ (rest.filter fun other => !other == value).eraseDups,
        other ≠ value := by
      intro other member
      simpa using (List.mem_filter.mp (List.mem_eraseDups.mp member)).2
    rw [List.eraseDups_cons, List.pairwise_cons]
    constructor
    next =>
      intro later member
      simp [(others later member).symm]
    next =>
      refine (ordered_eraseDups _).imp_of_mem ?_
      intro earlier later inEarlier inLater before
      have first := others earlier inEarlier
      have second := others later inLater
      have kept := idxOf_lt_of_filter (by simpa using first) (by simpa using second) before
      simpa [first.symm, second.symm] using kept
termination_by values => values.length
decreasing_by exact Nat.lt_succ_of_le (List.length_filter_le _ rest)

theorem firstSeen_eraseDups (values : List String) : FirstSeen values values.eraseDups :=
  ⟨fun _ => List.mem_eraseDups, nodup_eraseDups values, ordered_eraseDups values⟩

end Inquiry
