import Inquiry.Proofs.Request.Selection
import Inquiry.Proofs.Text.Folding

set_option autoImplicit false

namespace Inquiry

namespace Entries

variable {α β : Type} {Related : α → β → Prop} {entries : Entries α} {others : Entries β}

def Alike (Related : α → β → Prop) (entries : Entries α) (others : Entries β) : Prop :=
  List.Forall₂ (fun entry other => entry.1 = other.1 ∧ Related entry.2 other.2) entries others

theorem Alike.flip (alike : Alike Related entries others) :
    Alike (fun other value => Related value other) others entries :=
  List.Forall₂.flip (List.Forall₂.imp (fun _ _ same => ⟨same.1.symm, same.2⟩) alike)

theorem Alike.imp {Other : α → β → Prop} (alike : Alike Related entries others)
    (each : ∀ value other, Related value other → Other value other) :
    Alike Other entries others :=
  List.Forall₂.imp (fun _ _ same => ⟨same.1, each _ _ same.2⟩) alike

theorem Alike.put (alike : Alike Related entries others) (key : String) {value : α} {other : β}
    (related : Related value other) :
    Alike Related (put entries key value) (put others key other) := by
  induction alike with
  | nil => exact .cons ⟨rfl, related⟩ .nil
  | @cons entry second _ _ same rest ih =>
    obtain ⟨name, old⟩ := entry
    obtain ⟨_, otherOld⟩ := second
    obtain ⟨rfl, values⟩ := same
    by_cases wanted : name = key
    · simp only [Entries.put, if_pos wanted]
      exact .cons ⟨rfl, related⟩ rest
    · simp only [Entries.put, if_neg wanted]
      exact .cons ⟨rfl, values⟩ ih

theorem Alike.ofPairs {pairs : List (String × α)} {otherPairs : List (String × β)}
    (alike : Alike Related pairs otherPairs) :
    Alike Related (ofPairs pairs) (ofPairs otherPairs) := by
  refine List.rel_foldl (fun entries others alike pair other same => ?_) .nil alike
  obtain ⟨key, value⟩ := pair
  obtain ⟨_, otherValue⟩ := other
  obtain ⟨rfl, related⟩ := same
  exact Alike.put alike key related

theorem Alike.exists_get? (alike : Alike Related entries others) {key : String} {value : α}
    (found : get? entries key = some value) :
    ∃ other, get? others key = some other ∧ Related value other := by
  induction alike with
  | nil => exact absurd found nofun
  | @cons entry second _ _ same _ ih =>
    obtain ⟨name, first⟩ := entry
    obtain ⟨_, other⟩ := second
    obtain ⟨rfl, related⟩ := same
    by_cases wanted : name = key
    · rw [get?, if_pos wanted] at found ⊢
      exact ⟨other, rfl, Option.some_inj.mp found ▸ related⟩
    · rw [get?, if_neg wanted] at found ⊢
      exact ih found

end Entries

namespace Registry

variable {σ ι η : Type}

theorem accepts_of_accepts {registry other : Registry σ ι η} {params others : Entries String}
    (once : params.keys.Nodup) (othersOnce : others.keys.Nodup)
    (values : Entries.Alike (fun value other => Text.folded value = Text.folded other)
      params others)
    (reads : Entries.Alike
      (fun read other => ∀ item, Text.folded (read item) = Text.folded (other item))
      registry.filters other.filters)
    {item : ι} (accepts : (registry.predicate params).accepts item = true) :
    (other.predicate others).accepts item = true := by
  rw [accepts_predicate_iff _ once] at accepts
  rw [accepts_predicate_iff _ othersOnce]
  intro key otherRead otherValue filterable given
  obtain ⟨read, readable, sameRead⟩ := reads.flip.exists_get? filterable
  obtain ⟨value, present, sameValue⟩ := values.flip.exists_get? given
  have equal := accepts key read value readable present
  rw [Text.equalIgnoringCase_iff] at equal ⊢
  rw [← sameRead item, ← sameValue, equal]

theorem accepts_predicate_recased {registry other : Registry σ ι η}
    {params others : List (String × String)}
    (values : Entries.Alike Text.Recased params others)
    (reads : Entries.Alike (fun read other => ∀ item, Text.Recased (read item) (other item))
      registry.filters other.filters) :
    (other.predicate (Entries.ofPairs others)).accepts
      = (registry.predicate (Entries.ofPairs params)).accepts := by
  have sameValues := values.ofPairs.imp fun _ _ recased => recased.folded_eq.symm
  have sameReads := reads.imp fun _ _ recased item => (recased item).folded_eq.symm
  have once := Entries.nodup_keys_ofPairs params
  have othersOnce := Entries.nodup_keys_ofPairs others
  funext item
  rw [Bool.eq_iff_iff]
  constructor
  next =>
    refine accepts_of_accepts othersOnce once ?_ ?_
    · exact sameValues.flip.imp fun _ _ same => same.symm
    · exact sameReads.flip.imp fun _ _ same item => (same item).symm
  next => exact accepts_of_accepts once othersOnce sameValues sameReads

theorem accepts_own_value {registry : Registry σ ι η} {key : String} {read : ι → String}
    (filterable : registry.filters.get? key = some read) (item : ι) :
    (registry.predicate [(key, read item)]).accepts item = true := by
  rw [accepts_predicate_iff_forall_mem]
  intro entry member found readable
  obtain rfl := List.mem_singleton.mp member
  obtain rfl := Option.some_inj.mp (filterable.symm.trans readable)
  rw [Text.equalIgnoringCase_iff]

end Registry

namespace Request

variable {σ ι : Type}

theorem filter_ignores_case (catalog : Catalog σ ι) (operation : String)
    (positional : List String) (selector : Selector ι) {params others : List (String × String)}
    {filters : Entries (ι → String)} (values : Entries.Alike Text.Recased params others)
    (reads : Entries.Alike (fun read other => ∀ item, Text.Recased (read item) (other item))
      catalog.filters filters) :
    let ask filters params :=
      (ofArguments { catalog with filters } operation positional params selector).predicate
    (∀ items, (ask filters others).filter items = (ask catalog.filters params).filter items
        ∧ (ask filters others).count items = (ask catalog.filters params).count items)
      ∧ (∀ key read, catalog.filters.get? key = some read → ∀ item,
          (ask catalog.filters [(key, read item)]).accepts item = true)
      ∧ ∀ text other, Text.IsAscii text → Text.IsAscii other →
          Text.equalIgnoringCase text other = Text.equalIgnoringAsciiCase text other := by
  intro ask
  have same : (ask filters others).accepts = (ask catalog.filters params).accepts :=
    Registry.accepts_predicate_recased values reads
  refine ⟨fun items => ⟨?_, ?_⟩, ?_, fun _ _ => Text.equalIgnoringCase_of_ascii⟩
  · rw [Predicate.filter, Predicate.filter, same]
  · rw [Predicate.count, Predicate.count, same]
  · exact fun key read filterable => Registry.accepts_own_value filterable

theorem filter_ignores_case_dotted :
    let lowered : String → String := fun owner => String.ofList (Text.folded owner)
    let catalog : Catalog Unit String := ⟨[], [], [], [("owner", lowered)], [], [], [], none⟩
    let params := [("owner", "i\u0307pek"), ("limit", "5")]
    let ask := (ofArguments catalog "list" [] params ⟨[]⟩).predicate
    ask.filter ["\u0130pek", "Ipek"] = ["\u0130pek"] ∧ ask.count ["\u0130pek", "Ipek"] = 1 := by
  intro lowered catalog params ask
  have value : String.ofList (Text.folded "\u0130PEK") = "i\u0307pek" := by decide +kernel
  have values : Entries.Alike Text.Recased [("owner", "\u0130PEK"), ("limit", "5")] params :=
    .cons ⟨rfl, value ▸ .lowercase⟩ (.cons ⟨rfl, .refl _⟩ .nil)
  have reads : Entries.Alike
      (fun read other : String → String => ∀ item, Text.Recased (read item) (other item))
      [("owner", id)] [("owner", lowered)] :=
    .cons ⟨rfl, fun _ => .lowercase⟩ .nil
  obtain ⟨kept, counted⟩ := (filter_ignores_case { catalog with filters := [("owner", id)] }
    "list" [] ⟨[]⟩ values reads).1 ["\u0130pek", "Ipek"]
  exact ⟨kept.trans (by decide +kernel), counted.trans (by decide +kernel)⟩

end Request

end Inquiry
