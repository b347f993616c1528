import Inquiry.Proofs.Execution.Actions
import Inquiry.Proofs.Registry.Resolution
import Inquiry.Proofs.Request.Arguments
import Inquiry.Proofs.Text.Count
import Inquiry.Task.Schema

set_option autoImplicit false

namespace Inquiry

theorem SortSpec.ofParams_filter (keep : String → Bool) {params : List (String × String)}
    (idle : ∀ param ∈ params, keep param.1 = false → fieldOf? param.1 = none) :
    ofParams (params.filter fun param => keep param.1) = ofParams params := by
  induction params with
  | nil => rfl
  | cons param rest ih =>
    obtain ⟨key, value⟩ := param
    have later := ih fun other member => idle other (List.mem_cons_of_mem _ member)
    cases kept : keep key with
    | true => simp only [List.filter_cons, kept, if_true, ofParams, later]
    | false =>
      have none : ofParam key value = .ok none := by
        rw [ofParam, idle (key, value) List.mem_cons_self kept]
      rw [List.filter_cons_of_neg (by simp [kept]), later, ofParams, none]
      cases ofParams rest <;> rfl

theorem Registry.predicate_filter {σ ι η : Type} (registry : Registry σ ι η) (keep : String → Bool)
    {params : List (String × String)}
    (idle : ∀ param ∈ params, keep param.1 = false → registry.filters.has param.1 = false) :
    registry.predicate (params.filter fun param => keep param.1) = registry.predicate params := by
  unfold predicate
  congr 1
  induction params with
  | nil => rfl
  | cons param rest ih =>
    obtain ⟨key, value⟩ := param
    have later := ih fun other member => idle other (List.mem_cons_of_mem _ member)
    cases kept : keep key with
    | true => simp only [List.filter_cons, kept, if_true, List.filterMap_cons, later]
    | false =>
      have absent : registry.filters.get? key = none := by
        simpa [Entries.has] using idle (key, value) List.mem_cons_self kept
      rw [List.filter_cons_of_neg (by simp [kept]), later]
      simp [absent]

namespace Request

variable {σ ι : Type}

def isPageKey (key : String) : Bool := key == "skip" || key == "take"

structure AsksPage (params paged : List (String × String)) (skip take : Nat) : Prop where
  others : (paged.filter fun param => !isPageKey param.1) = params
  page : (paged.filter fun param => isPageKey param.1).Perm
    [("skip", toString skip), ("take", toString take)]

theorem fieldOf?_of_isPageKey {key : String} (asks : isPageKey key = true) :
    SortSpec.fieldOf? key = none := by
  have named : key = "skip" ∨ key = "take" := by simpa [isPageKey] using asks
  rcases named with rfl | rfl <;> decide

theorem page_of_bare (catalog : Catalog σ ι) (operation : String) (positional : List String)
    {params : List (String × String)} (selector : Selector ι)
    (bare : ∀ param ∈ params, isPageKey param.1 = false) :
    (ofArguments catalog operation positional params selector).page = .ok .whole := by
  have absent : ∀ key, isPageKey key = true → (Entries.ofPairs params).get? key = none := by
    intro key known
    have none : (params.filter fun param => param.1 = key) = [] := by
      rw [List.filter_eq_nil_iff]
      intro param member same
      rw [← of_decide_eq_true same, bare param member] at known
      cases known
    rw [Entries.get?_ofPairs, none]
    rfl
  have first : (ofArguments catalog operation positional params selector).arg? "skip" = none :=
    absent "skip" (by decide)
  have second : (ofArguments catalog operation positional params selector).arg? "take" = none :=
    absent "take" (by decide)
  rw [Request.page, first, second]
  rfl

namespace AsksPage

variable {params paged : List (String × String)} {skip take : Nat}

theorem get?_paged (asks : AsksPage params paged skip take) {key value : String}
    (known : isPageKey key = true)
    (only : ([("skip", toString skip), ("take", toString take)].filter fun param => param.1 = key) =
      [(key, value)]) :
    (Entries.ofPairs paged).get? key = some value := by
  have asked : (paged.filter fun param => param.1 = key) = [(key, value)] := by
    have chosen := asks.page.filter fun param => param.1 = key
    rw [only, List.filter_filter, List.perm_singleton] at chosen
    rw [← chosen]
    apply List.filter_congr
    intro param _
    by_cases same : param.1 = key <;> simp [same, known]
  rw [Entries.get?_ofPairs, asked]
  rfl

theorem named (asks : AsksPage params paged skip take) :
    (Entries.ofPairs paged).filter (fun param => !isPageKey param.1) = Entries.ofPairs params := by
  rw [Entries.filter_ofPairs (fun key => !isPageKey key), asks.others]

variable (catalog : Catalog σ ι) (operation : String) (positional : List String)
  (selector : Selector ι)

theorem page_eq (asks : AsksPage params paged skip take) (skipBound : skip < Text.countBound)
    (takeBound : take < Text.countBound) :
    (ofArguments catalog operation positional paged selector).page = .ok ⟨some skip, some take⟩ := by
  have first : (ofArguments catalog operation positional paged selector).arg? "skip" =
      some (toString skip) := asks.get?_paged (by decide) (by simp)
  have second : (ofArguments catalog operation positional paged selector).arg? "take" =
      some (toString take) := asks.get?_paged (by decide) (by simp)
  rw [Request.page, first, second, Page.parse, Page.parseBound, Page.parseBound, Page.parseCount,
    Page.parseCount, Text.count?_toString skipBound, Text.count?_toString takeBound]
  rfl

theorem sortSpecs_eq (asks : AsksPage params paged skip take) :
    (ofArguments catalog operation positional paged selector).sortSpecs =
      (ofArguments catalog operation positional params selector).sortSpecs := by
  change SortSpec.ofParams (Entries.ofPairs paged) = SortSpec.ofParams (Entries.ofPairs params)
  rw [← asks.named]
  refine (SortSpec.ofParams_filter (fun key => !isPageKey key) fun param _ dropped => ?_).symm
  exact fieldOf?_of_isPageKey (by simpa using dropped)

theorem predicate_eq (asks : AsksPage params paged skip take)
    (noFilter : ∀ key, isPageKey key = true → catalog.filters.has key = false) :
    (ofArguments catalog operation positional paged selector).predicate =
      (ofArguments catalog operation positional params selector).predicate := by
  change catalog.predicate (Entries.ofPairs paged) = catalog.predicate (Entries.ofPairs params)
  rw [← asks.named]
  refine (catalog.predicate_filter (fun key => !isPageKey key) fun param _ dropped => ?_).symm
  exact noFilter param.1 (by simpa using dropped)

end AsksPage

section Pages

variable {request : Request σ ι} {items result : List ι}

theorem exists_sorted_of_applyPipeline (whole : request.page = .ok .whole)
    (ran : request.applyPipeline items = .ok result) :
    ∃ specs, request.sortSpecs = .ok specs
      ∧ request.catalog.sort specs (request.predicate.filter items) = .ok result := by
  obtain ⟨specs, directives, ran⟩ := exists_of_bind_eq_ok ran
  obtain ⟨page, bounds, ran⟩ := exists_of_bind_eq_ok ran
  obtain ⟨sorted, ordered, same⟩ := exists_of_bind_eq_ok ran
  rw [whole] at bounds
  cases bounds
  cases same
  exact ⟨specs, directives, ordered⟩

theorem applyPipeline_of_sorted {specs : List SortSpec} {page : Page} {sorted : List ι}
    (directives : request.sortSpecs = .ok specs) (bounds : request.page = .ok page)
    (ordered : request.catalog.sort specs (request.predicate.filter items) = .ok sorted) :
    request.applyPipeline items = .ok (page.apply sorted) := by
  rw [applyPipeline, directives, bounds]
  simp only [bind, Except.bind, ordered]
  rfl

theorem perm_of_sort {catalog : Catalog σ ι} {specs : List SortSpec} {sorted : List ι}
    (ordered : catalog.sort specs items = .ok sorted) : sorted.Perm items := by
  obtain ⟨steps, -, same⟩ := exists_of_bind_eq_ok ordered
  cases same
  exact List.mergeSort_perm items _

end Pages

theorem flatMap_windows {α : Type} (items : List α) (size count : Nat) :
    (List.range count).flatMap (fun page => (items.drop (page * size)).take size) =
      items.take (count * size) := by
  induction count with
  | zero => simp
  | succ count ih =>
    rw [List.range_succ, List.flatMap_append, ih, Nat.succ_mul, List.take_add]
    simp

theorem lt_pageCount_iff {size : Nat} (positive : 0 < size) (length page : Nat) :
    page < (length + size - 1) / size ↔ page * size < length := by
  rw [Nat.lt_iff_add_one_le, Nat.le_div_iff_mul_le positive, Nat.succ_mul]
  omega

theorem applyPipeline_pages (schema : Schema σ ι) (operation : String) (positional : List String)
    (selector : Selector ι) (noSkip : schema.filters.has "skip" = false)
    (noTake : schema.filters.has "take" = false) {params : List (String × String)}
    (bare : ∀ param ∈ params, isPageKey param.1 = false) {items result : List ι}
    (few : items.length < Text.countBound) {size : Nat} (positive : 1 ≤ size)
    (bounded : size < Text.countBound) (paged : Nat → List (String × String))
    (asks : ∀ page, page * size < items.length →
      AsksPage params (paged page) (page * size) size)
    (whole : (ofArguments schema.catalog operation positional params selector).applyPipeline items =
      .ok result) :
    ∃ count pages, (∀ page, page < count ↔ page * size < items.length)
      ∧ (List.range count).mapM (fun page =>
        (ofArguments schema.catalog operation positional (paged page) selector).applyPipeline
          items) = .ok pages
      ∧ (∀ page ∈ pages, page.length ≤ size) ∧ pages.flatten = result
      ∧ result.Perm ((ofArguments schema.catalog operation positional params
        selector).predicate.filter items) := by
  have noFilter : ∀ key, isPageKey key = true → schema.catalog.filters.has key = false := by
    intro key known
    have named : key = "skip" ∨ key = "take" := by simpa [isPageKey] using known
    rcases named with rfl | rfl
    · exact noSkip
    · exact noTake
  obtain ⟨specs, directives, ordered⟩ := exists_sorted_of_applyPipeline
    (page_of_bare schema.catalog operation positional selector bare) whole
  have counts := lt_pageCount_iff positive items.length
  generalize (items.length + size - 1) / size = count at counts
  have each : ∀ page ∈ List.range count,
      (ofArguments schema.catalog operation positional (paged page) selector).applyPipeline items =
        .ok ((result.drop (page * size)).take size) := by
    intro page member
    have left : page * size < items.length := (counts page).mp (List.mem_range.mp member)
    have asksPage := asks page left
    have bounds := asksPage.page_eq schema.catalog operation positional selector
      (Nat.lt_trans left few) bounded
    have sameOrder := asksPage.sortSpecs_eq schema.catalog operation positional selector
    refine applyPipeline_of_sorted (sameOrder.trans directives) bounds ?_
    rw [asksPage.predicate_eq schema.catalog operation positional selector noFilter]
    exact ordered
  have all : result.length ≤ count * size := by
    have kept : result.length ≤ items.length := by
      rw [(perm_of_sort ordered).length_eq]
      exact List.length_filter_le _ items
    have last : ¬ count * size < items.length := fun left => absurd ((counts count).mpr left) (by simp)
    omega
  refine ⟨count, _, counts, mapM_eq_map_of_forall each, ?_, ?_, perm_of_sort ordered⟩
  · intro page member
    obtain ⟨number, -, rfl⟩ := List.mem_map.mp member
    exact List.length_take_le size _
  · rw [← List.flatMap_def, flatMap_windows, List.take_of_length_le all]

theorem applyPipeline_pages_tasks :
    let params := [("status", "todo"), ("sort_priority", "desc")]
    let paged := fun page => ("take", toString 2) :: params ++ [("skip", toString (page * 2))]
    let list := fun params => (ofArguments Task.schema.catalog "list" [] params
      ⟨[]⟩).applyPipeline TaskStore.withSampleTasks.tasks
    ∃ result count pages, list params = .ok result
      ∧ (∀ page, page < count ↔ page * 2 < TaskStore.withSampleTasks.tasks.length)
      ∧ (List.range count).mapM (fun page => list (paged page)) = .ok pages
      ∧ (∀ page ∈ pages, page.length ≤ 2) ∧ pages.flatten = result := by
  intro params paged list
  obtain ⟨result, whole⟩ : ∃ result, list params = .ok result := ⟨_, rfl⟩
  have asks (page : Nat) : AsksPage params (paged page) (page * 2) 2 :=
    ⟨rfl, .swap _ _ _⟩
  obtain ⟨count, pages, counts, ran, short, same, -⟩ :=
    applyPipeline_pages Task.schema "list" [] ⟨[]⟩ rfl rfl (by decide) (by decide) (by decide)
      (by decide) paged (fun page _ => asks page) whole
  exact ⟨result, count, pages, whole, counts, ran, short, same⟩

end Request

end Inquiry
