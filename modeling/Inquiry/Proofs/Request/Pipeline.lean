import Inquiry.Proofs.Pipeline.Directives
import Inquiry.Proofs.Pipeline.Sorting
import Inquiry.Proofs.Request.Paging
import Inquiry.Proofs.Request.Selection

set_option autoImplicit false

namespace Inquiry

namespace Page

def start (page : Page) (length : Nat) : Nat := min (page.skip.getD 0) length

def stop (page : Page) (length : Nat) : Nat :=
  match page.take with
  | some take => min (page.skip.getD 0 + take) length
  | none => length

theorem apply_eq_extract {ι : Type} (page : Page) (items : List ι) :
    page.apply items = items.extract (page.start items.length) (page.stop items.length) := by
  obtain ⟨skip?, take?⟩ := page
  simp only [apply, start, stop]
  generalize skip?.getD 0 = skip
  rw [List.extract_eq_take_drop, ← List.drop_eq_drop_min]
  have short (limit : Nat) : (items.drop skip).take limit =
      (items.drop skip).take (min limit (items.length - skip)) := by
    rw [← List.length_drop, ← List.take_eq_take_min]
  cases take? with
  | none =>
    refine (List.take_of_length_le ?_).symm
    simp only [List.length_drop]
    omega
  | some take =>
    dsimp only
    rw [short take, short (_ - _)]
    congr 1
    omega

end Page

namespace Request

variable {σ ι : Type}

inductive MadeFor (schema : Schema σ ι) : Request σ ι → Prop
  | read (operation : String) (positional : List String) (params : List (String × String))
      (selector : Selector ι) :
      MadeFor schema (ofArguments schema.catalog operation positional params selector)
  | mutation (query : Query) (selector : Selector ι) (dryRun : Bool) :
      MadeFor schema (ofMutation schema.catalog query selector dryRun)

def Passes (request : Request σ ι) (item : ι) : Prop :=
  ∀ entry ∈ request.named, ∀ read ∈ request.catalog.filters.get? entry.1,
    Text.folded (read item) = Text.folded entry.2

instance (request : Request σ ι) (item : ι) : Decidable (request.Passes item) :=
  inferInstanceAs (Decidable (∀ entry ∈ request.named,
    ∀ read ∈ request.catalog.filters.get? entry.1, Text.folded (read item) = Text.folded entry.2))

def Bounds (request : Request σ ι) (key : String) : Option Nat → Prop
  | some count => ∃ value, request.arg? key = some value ∧ Text.WritesCount value count
  | none => request.arg? key = none

def Misbounds (request : Request σ ι) (key value : String) : Prop :=
  request.arg? key = some value ∧ ∀ count, ¬ Text.WritesCount value count

/-- What is reported: the first ill-written directive, else the bounds of the page, else the first
directive whose field is not sortable. -/
inductive Blames (request : Request σ ι) : Failure → Prop
  | directive {failure : Failure} (wrong : SortSpec.FirstMisdirects request.named failure) :
      Blames request failure
  | skip {specs : List SortSpec} {value : String} (directs : SortSpec.Directs request.named specs)
      (wrong : request.Misbounds "skip" value) : Blames request (.badCount "skip" value)
  | take {specs : List SortSpec} {skip : Option Nat} {value : String}
      (directs : SortSpec.Directs request.named specs) (skips : request.Bounds "skip" skip)
      (wrong : request.Misbounds "take" value) : Blames request (.badCount "take" value)
  | field {before after : List SortSpec} {spec : SortSpec} {skip take : Option Nat}
      (directs : SortSpec.Directs request.named (before ++ spec :: after))
      (skips : request.Bounds "skip" skip) (takes : request.Bounds "take" take)
      (sortable : ∀ other ∈ before, request.catalog.orders.has other.field = true)
      (missing : request.catalog.orders.has spec.field = false) :
      Blames request (.notSortable spec.field)

/-- What makes the pipeline fail, in whatever order it is found. -/
inductive Faulty (request : Request σ ι) : Prop
  | noField {value : String} (given : ("sort_", value) ∈ request.named)
  | noDirection {field value : String} (given : ("sort_" ++ field, value) ∈ request.named)
      (unnamed : ∀ direction : SortDirection, ¬ direction.IsNamed value)
  | noCount {key value : String} (bound : key = "skip" ∨ key = "take")
      (wrong : request.Misbounds key value)
  | notSortable {field value : String} (given : ("sort_" ++ field, value) ∈ request.named)
      (missing : request.catalog.orders.has field = false)

structure Asks (request : Request σ ι) (steps : List (SortStep ι)) (page : Page) : Prop where
  order : ∃ specs, SortSpec.Directs request.named specs
    ∧ List.Forall₂ request.catalog.Follows specs steps
  skip : request.Bounds "skip" page.skip
  take : request.Bounds "take" page.take

section

variable {request : Request σ ι}

theorem MadeFor.catalog_eq {schema : Schema σ ι} (made : request.MadeFor schema) :
    request.catalog = schema.catalog := by
  cases made with
  | read => rfl
  | mutation =>
    rw [ofMutation_eq]
    rfl

theorem MadeFor.predicate_eq {schema : Schema σ ι} (made : request.MadeFor schema) :
    request.predicate = request.catalog.predicate request.named := by
  cases made with
  | read => rfl
  | mutation =>
    rw [ofMutation_eq]
    rfl

theorem parseBound_of_bounds {key : String} {bound : Option Nat}
    (bounds : request.Bounds key bound) :
    Page.parseBound key (request.arg? key) = .ok bound := by
  cases bound with
  | none =>
    have absent : request.arg? key = none := bounds
    rw [absent]
    rfl
  | some count =>
    obtain ⟨value, given, writes⟩ := bounds
    rw [given, Page.parseBound, Page.parseCount, Text.count?_eq_some_iff.mpr writes]
    rfl

theorem parseBound_of_misbounds {key value : String} (wrong : request.Misbounds key value) :
    Page.parseBound key (request.arg? key) = .error (.badCount key value) := by
  have unread : Text.count? value = none := Option.eq_none_iff_forall_ne_some.mpr
    fun count read => wrong.2 count (Text.count?_eq_some_iff.mp read)
  rw [wrong.1, Page.parseBound, Page.parseCount, unread]
  rfl

theorem bounds_or_misbounds (request : Request σ ι) (key : String) :
    (∃ bound, request.Bounds key bound) ∨ ∃ value, request.Misbounds key value := by
  cases given : request.arg? key with
  | none => exact .inl ⟨none, given⟩
  | some value =>
    by_cases writes : ∃ count, Text.WritesCount value count
    · obtain ⟨count, writes⟩ := writes
      exact .inl ⟨some count, value, given, writes⟩
    · exact .inr ⟨value, given, not_exists.mp writes⟩

theorem Misbounds.not_bounds {key value : String} {bound : Option Nat}
    (wrong : request.Misbounds key value) : ¬ request.Bounds key bound := fun bounds => by
  cases (parseBound_of_bounds bounds).symm.trans (parseBound_of_misbounds wrong)

theorem filter_predicate (named : request.predicate = request.catalog.predicate request.named)
    (items : List ι) :
    request.predicate.filter items = items.filter fun item => request.Passes item := by
  refine List.filter_congr fun item _ => ?_
  rw [Bool.eq_iff_iff, named, Registry.accepts_predicate_iff_forall_mem, decide_eq_true_iff, Passes]
  simp only [Text.equalIgnoringCase_iff]

theorem applyPipeline_of_blames {failure : Failure} (blames : request.Blames failure)
    (items : List ι) : request.applyPipeline items = .error failure := by
  unfold applyPipeline sortSpecs Request.page Page.parse
  cases blames with
  | directive wrong =>
    rw [SortSpec.ofParams_eq_error_iff.mpr wrong]
    rfl
  | skip directs wrong =>
    rw [SortSpec.ofParams_eq_ok_iff.mpr directs, parseBound_of_misbounds wrong]
    rfl
  | take directs skips wrong =>
    rw [SortSpec.ofParams_eq_ok_iff.mpr directs, parseBound_of_bounds skips,
      parseBound_of_misbounds wrong]
    rfl
  | field directs skips takes sortable missing =>
    rw [SortSpec.ofParams_eq_ok_iff.mpr directs, parseBound_of_bounds skips,
      parseBound_of_bounds takes]
    simp only [bind, Except.bind, pure, Except.pure]
    rw [Registry.sort_eq_error_iff.mpr ⟨_, _, _, rfl, sortable, missing, rfl⟩]

theorem applyPipeline_of_asks {steps : List (SortStep ι)} {page : Page}
    (asks : request.Asks steps page) (items : List ι) :
    request.applyPipeline items =
      .ok (page.apply (sortBySteps steps (request.predicate.filter items))) := by
  obtain ⟨specs, directs, follows⟩ := asks.order
  refine applyPipeline_of_sorted (SortSpec.ofParams_eq_ok_iff.mpr directs) ?_
    (Registry.sort_of_follows follows _)
  rw [Request.page, Page.parse, parseBound_of_bounds asks.skip, parseBound_of_bounds asks.take]
  rfl

theorem asks_or_blames (request : Request σ ι) :
    (∃ steps page, request.Asks steps page) ∨ ∃ failure, request.Blames failure := by
  rcases SortSpec.directs_or_firstMisdirects request.named with ⟨specs, directs⟩ | ⟨failure, wrong⟩
  case inr => exact .inr ⟨failure, .directive wrong⟩
  rcases request.bounds_or_misbounds "skip" with ⟨skip, skips⟩ | ⟨value, wrong⟩
  case inr => exact .inr ⟨_, .skip directs wrong⟩
  rcases request.bounds_or_misbounds "take" with ⟨take, takes⟩ | ⟨value, wrong⟩
  case inr => exact .inr ⟨_, .take directs skips wrong⟩
  by_cases sortable : ∀ spec ∈ specs, request.catalog.orders.has spec.field = true
  · obtain ⟨steps, follows⟩ := Registry.exists_follows sortable
    exact .inl ⟨steps, ⟨skip, take⟩, ⟨specs, directs, follows⟩, skips, takes⟩
  · obtain ⟨before, spec, after, rfl, earlier, missing⟩ := exists_first_of_not_forall sortable
    exact .inr ⟨_, .field directs skips takes earlier
      (Bool.not_eq_true _ |>.mp missing)⟩

theorem applyPipeline_eq_error_iff {items : List ι} {failure : Failure} :
    request.applyPipeline items = .error failure ↔ request.Blames failure := by
  refine ⟨fun failed => ?_, fun blames => applyPipeline_of_blames blames items⟩
  rcases request.asks_or_blames with ⟨steps, page, asks⟩ | ⟨other, blames⟩
  · cases failed.symm.trans (applyPipeline_of_asks asks items)
  · cases failed.symm.trans (applyPipeline_of_blames blames items)
    exact blames

theorem Asks.not_faulty {steps : List (SortStep ι)} {page : Page} (asks : request.Asks steps page) :
    ¬ request.Faulty := by
  obtain ⟨specs, directs, follows⟩ := asks.order
  rintro (given | ⟨given, unnamed⟩ | ⟨rfl | rfl, wrong⟩ | ⟨given, missing⟩)
  · have unnamed : ("sort_" ++ "", _) ∈ request.named := given
    exact (directs.mem_of_given unnamed).1 rfl
  · obtain ⟨-, direction, named, -⟩ := directs.mem_of_given given
    exact unnamed direction named
  · exact wrong.not_bounds asks.skip
  · exact wrong.not_bounds asks.take
  · obtain ⟨-, direction, -, member⟩ := directs.mem_of_given given
    rw [Registry.has_of_follows follows _ member] at missing
    cases missing

theorem Blames.faulty {failure : Failure} (blames : request.Blames failure) : request.Faulty := by
  cases blames with
  | directive wrong =>
    obtain ⟨before, param, after, specs, split, -, wrong⟩ := wrong
    have given : param ∈ request.named := by simp [split]
    cases wrong with
    | noField => exact .noField given
    | noDirection _ unnamed => exact .noDirection given unnamed
  | skip _ wrong => exact .noCount (.inl rfl) wrong
  | take _ _ wrong => exact .noCount (.inr rfl) wrong
  | field directs _ _ _ missing =>
    obtain ⟨value, given⟩ := directs.given (List.mem_append_right _ List.mem_cons_self)
    exact .notSortable given missing

theorem exists_blames_iff : (∃ failure, request.Blames failure) ↔ request.Faulty := by
  constructor
  · rintro ⟨failure, blames⟩
    exact blames.faulty
  · intro faulty
    rcases request.asks_or_blames with ⟨steps, page, asks⟩ | blamed
    · exact absurd faulty asks.not_faulty
    · exact blamed

end

/-- Whether the pipeline fails, and what it reports, depends on the arguments alone: it fails if
one of them is at fault, and reports what comes first. Else it takes the positions of the page from
the one arrangement of the elements that pass. -/
theorem applyPipeline_reference {schema : Schema σ ι} (preorders : schema.HasPreorders)
    {request : Request σ ι} (made : request.MadeFor schema) :
    (∀ items failure, request.applyPipeline items = .error failure ↔ request.Blames failure)
    ∧ ((∃ failure, request.Blames failure) ↔ request.Faulty)
    ∧ (¬ request.Faulty → ∃ steps page, request.Asks steps page ∧ ∀ items, ∃ sorted,
      (∀ arranged, Arranges steps (items.filter fun item => request.Passes item) arranged ↔
        arranged = sorted)
      ∧ request.applyPipeline items =
        .ok (sorted.extract (page.start sorted.length) (page.stop sorted.length))) := by
  refine ⟨fun items failure => applyPipeline_eq_error_iff, exists_blames_iff, fun sound => ?_⟩
  rcases request.asks_or_blames with ⟨steps, page, asks⟩ | ⟨failure, blames⟩
  · refine ⟨steps, page, asks, fun items => ⟨_, fun arranged => arranges_iff ?_, ?_⟩⟩
    · obtain ⟨specs, -, follows⟩ := asks.order
      have orders : request.catalog.HasPreorders := by
        rw [made.catalog_eq]
        exact preorders
      exact orders.preordered follows
    · rw [applyPipeline_of_asks asks, filter_predicate made.predicate_eq, Page.apply_eq_extract]
  · exact absurd blames.faulty sound

theorem applyPipeline_reference_tasks :
    let list := fun params => ofArguments Task.schema.catalog "list" [] params ⟨[]⟩
    let asked := list [("take", "3"), ("status", "TODO"), ("sort_priority", "Desc"), ("skip", "+1")]
    let tasks := TaskStore.withSampleTasks.tasks
    (∃ steps page sorted, asked.Asks steps page
        ∧ (∀ arranged, Arranges steps (tasks.filter fun task => asked.Passes task) arranged ↔
          arranged = sorted)
        ∧ (sorted.extract (page.start sorted.length) (page.stop sorted.length)).map Task.id =
          ["task-6"])
      ∧ ∀ items, (list [("take", "two"), ("sort_size", "asc"), ("sort_id", "up")]).applyPipeline
        items = .error (.badSortDirection "id" "up") := by
  intro list asked tasks
  have made (params : List (String × String)) : (list params).MadeFor Task.schema := .read _ _ _ _
  constructor
  · obtain ⟨blamed, faulty, yields⟩ := applyPipeline_reference Task.schema_hasPreorders (made _)
    let byPriority := fun left right : Task => compare left.priority.rank right.priority.rank
    have ran : asked.applyPipeline tasks = .ok (Page.apply ⟨some 1, some 3⟩
        (sortBySteps [(byPriority, .descending)]
          (tasks.filter fun task => task.status == .todo))) := rfl
    have sound : ¬ asked.Faulty := fun wrong => by
      obtain ⟨failure, blames⟩ := faulty.mpr wrong
      cases ran.symm.trans ((blamed tasks failure).mpr blames)
    obtain ⟨steps, page, asks, arranged⟩ := yields sound
    obtain ⟨sorted, unique, same⟩ := arranged tasks
    refine ⟨steps, page, sorted, asks, unique, ?_⟩
    rw [← Except.ok.inj (ran.symm.trans same)]
    cbv
  · intro items
    obtain ⟨blamed, -, -⟩ := applyPipeline_reference Task.schema_hasPreorders (made _)
    exact (blamed items _).mpr ((blamed [] _).mp rfl)

end Request

end Inquiry
