import Inquiry.Proofs.Execution.Actions
import Inquiry.Proofs.Pipeline.Order
import Inquiry.Proofs.Registry.Resolution
import Inquiry.Task.Schema
import Mathlib.Data.List.Permutation

set_option autoImplicit false

namespace Inquiry

theorem transCmp_key {ι κ : Type} [Ord κ] [Std.TransOrd κ] (key : ι → κ) :
    Std.TransCmp fun left right => compare (key left) (key right) :=
  inferInstanceAs (Std.TransCmp (compareOn key))

namespace Registry

variable {σ ι η : Type} {registry : Registry σ ι η} {specs : List SortSpec} {items : List ι}

def HasPreorders (registry : Registry σ ι η) : Prop :=
  ∀ field compare, registry.orders.get? field = some compare → Std.TransCmp compare

structure Follows (registry : Registry σ ι η) (spec : SortSpec) (step : SortStep ι) : Prop where
  order : registry.orders.get? spec.field = some step.1
  direction : step.2 = spec.direction

theorem sortStep_eq_ok_iff {spec : SortSpec} {step : SortStep ι} :
    registry.sortStep spec = .ok step ↔ registry.Follows spec step := by
  obtain ⟨compare, direction⟩ := step
  unfold sortStep
  cases located : registry.orders.get? spec.field with
  | none =>
    constructor
    · rintro ⟨⟩
    · intro follows
      cases located.symm.trans follows.order
  | some registered =>
    constructor
    · rintro ⟨⟩
      exact ⟨located, rfl⟩
    · rintro ⟨order, rfl⟩
      cases located.symm.trans order
      rfl

theorem sortStep_eq_error_iff {spec : SortSpec} {failure : Failure} :
    registry.sortStep spec = .error failure ↔
      registry.orders.has spec.field = false ∧ failure = .notSortable spec.field := by
  unfold sortStep
  cases located : registry.orders.get? spec.field <;> simp [Entries.has, located, eq_comm]

theorem exists_sortStep_iff {spec : SortSpec} :
    (∃ step, registry.sortStep spec = .ok step) ↔ registry.orders.has spec.field = true := by
  unfold sortStep
  cases located : registry.orders.get? spec.field <;> simp [Entries.has, located]

theorem exists_follows (sortable : ∀ spec ∈ specs, registry.orders.has spec.field = true) :
    ∃ steps, List.Forall₂ registry.Follows specs steps := by
  obtain ⟨steps, ran, -⟩ := mapM_of_forall_ok fun spec member =>
    exists_sortStep_iff.mpr (sortable spec member)
  exact ⟨steps, (mapM_eq_ok_iff.mp ran).imp fun _ _ => sortStep_eq_ok_iff.mp⟩

theorem has_of_follows {steps : List (SortStep ι)}
    (follows : List.Forall₂ registry.Follows specs steps) :
    ∀ spec ∈ specs, registry.orders.has spec.field = true := by
  induction follows with
  | nil => exact List.forall_mem_nil _
  | cons first _ ih =>
    exact List.forall_mem_cons.mpr ⟨exists_sortStep_iff.mp ⟨_, sortStep_eq_ok_iff.mpr first⟩, ih⟩

theorem hasPreorders_of_mem (each : ∀ entry ∈ registry.orders, Std.TransCmp entry.2) :
    registry.HasPreorders :=
  fun _ _ located => each _ (Entries.mem_of_get? located)

theorem HasPreorders.preordered (preorders : registry.HasPreorders) {steps : List (SortStep ι)}
    (follows : List.Forall₂ registry.Follows specs steps) : Preordered steps := by
  induction follows with
  | nil => exact List.forall_mem_nil _
  | cons first later ih => exact List.forall_mem_cons.mpr ⟨preorders _ _ first.order, ih⟩

theorem sort_of_follows {steps : List (SortStep ι)}
    (follows : List.Forall₂ registry.Follows specs steps) (items : List ι) :
    registry.sort specs items = .ok (sortBySteps steps items) := by
  rw [sort, mapM_eq_ok_iff.mpr (follows.imp fun _ _ => sortStep_eq_ok_iff.mpr)]
  rfl

theorem sort_eq_error_iff {failure : Failure} :
    registry.sort specs items = .error failure ↔
      ∃ before spec after, specs = before ++ spec :: after
        ∧ (∀ other ∈ before, registry.orders.has other.field = true)
        ∧ registry.orders.has spec.field = false ∧ failure = .notSortable spec.field := by
  constructor
  · intro failed
    rcases error_of_bind_eq_error failed with ran | ⟨steps, -, ⟨⟩⟩
    obtain ⟨before, spec, after, split, passed, failed⟩ := exists_first_error_of_mapM ran
    obtain ⟨unsortable, same⟩ := sortStep_eq_error_iff.mp failed
    exact ⟨before, spec, after, split,
      fun other member => exists_sortStep_iff.mp (passed other member), unsortable, same⟩
  · rintro ⟨before, spec, after, rfl, sortable, unsortable, same⟩
    have ran : (before ++ spec :: after).mapM registry.sortStep = .error failure :=
      mapM_of_first_error (fun other member => exists_sortStep_iff.mpr (sortable other member))
        (sortStep_eq_error_iff.mpr ⟨unsortable, same⟩)
    rw [sort, ran]
    rfl

abbrev Sorting (ι : Type) := ExceptT Failure (StateM (List ι))

def sortInPlace (registry : Registry σ ι η) (specs : List SortSpec) : Sorting ι Unit := do
  let steps ← (specs.mapM registry.sortStep : Except Failure (List (SortStep ι)))
  modify (sortBySteps steps)

theorem run_sortInPlace (registry : Registry σ ι η) (specs : List SortSpec) (items : List ι) :
    (registry.sortInPlace specs).run.run items =
      match registry.sort specs items with
      | .ok sorted => (.ok (), sorted)
      | .error failure => (.error failure, items) := by
  unfold sortInPlace sort
  cases specs.mapM registry.sortStep <;> rfl

theorem run_sortInPlace_of_follows {steps : List (SortStep ι)}
    (follows : List.Forall₂ registry.Follows specs steps) (items : List ι) :
    (registry.sortInPlace specs).run.run items = (.ok (), sortBySteps steps items) := by
  rw [run_sortInPlace, sort_of_follows follows]

theorem run_forM_sortInPlace {steps : List (SortStep ι)}
    (preordered : Preordered steps) (follows : List.Forall₂ registry.Follows specs steps)
    (items : List ι) :
    (forM specs.reverse fun spec => registry.sortInPlace [spec]).run.run items =
      (.ok (), sortBySteps steps items) := by
  induction follows with
  | nil => exact congrArg _ (arrangesInTurn_iff preordered |>.mp .nil)
  | cons first later ih =>
    have others := (List.forall_mem_cons.mp preordered).2
    have last := run_sortInPlace_of_follows (.cons first .nil)
    rw [List.reverse_cons, List.forM_append, sortBySteps_cons preordered, ← last, ExceptT.run_bind,
      StateT.run_bind, ih others]
    simp only [List.forM_cons, List.forM_nil, bind_pure_unit]
    rfl

/-- To sort by several directives is to sort by each of them in turn, the last one first. If a field
is not sortable the first such is reported, and the list stays as it was. -/
theorem sortInPlace_in_turn {schema : Schema σ ι} (preorders : schema.HasPreorders)
    (specs : List SortSpec) (items : List ι) :
    ((∀ spec ∈ specs, schema.orders.has spec.field = true) →
      ∃ steps sorted, List.Forall₂ schema.Follows specs steps
        ∧ schema.sort specs items = .ok sorted
        ∧ (schema.sortInPlace specs).run.run items = (.ok (), sorted)
        ∧ (forM specs.reverse fun spec => schema.sortInPlace [spec]).run.run items =
          (.ok (), sorted)
        ∧ (∀ arranged, ArrangesInTurn steps items arranged ↔ arranged = sorted)
        ∧ sorted.Perm items
        ∧ (schema.sortInPlace specs).run.run sorted = (.ok (), sorted))
    ∧ ((∃ spec ∈ specs, schema.orders.has spec.field = false) →
      ∃ before spec after, specs = before ++ spec :: after
        ∧ (∀ other ∈ before, schema.orders.has other.field = true)
        ∧ schema.orders.has spec.field = false
        ∧ schema.sort specs items = .error (.notSortable spec.field)
        ∧ (schema.sortInPlace specs).run.run items =
          (.error (.notSortable spec.field), items)) := by
  constructor
  · intro sortable
    obtain ⟨steps, follows⟩ := exists_follows sortable
    have chain := preorders.preordered follows
    refine ⟨steps, sortBySteps steps items, follows, sort_of_follows follows items,
      run_sortInPlace_of_follows follows items, run_forM_sortInPlace chain follows items,
      fun arranged => arrangesInTurn_iff chain, (arranges_sortBySteps chain items).perm, ?_⟩
    rw [run_sortInPlace_of_follows follows, sortBySteps_sortBySteps chain]
  · rintro ⟨spec, member, missing⟩
    have unsortable : ¬ ∀ other ∈ specs, schema.orders.has other.field = true := fun sortable => by
      rw [sortable spec member] at missing
      cases missing
    obtain ⟨before, first, after, split, earlier, absent⟩ := exists_first_of_not_forall unsortable
    rw [Bool.not_eq_true] at absent
    have failed : schema.sort specs items = .error (.notSortable first.field) :=
      sort_eq_error_iff.mpr ⟨before, first, after, split, earlier, absent, rfl⟩
    refine ⟨before, first, after, split, earlier, absent, failed, ?_⟩
    rw [run_sortInPlace, failed]

end Registry

theorem Task.schema_hasPreorders : Task.schema.HasPreorders := by
  apply Registry.hasPreorders_of_mem
  have orders : Task.schema.orders = [
    ("id", fun left right => compare left.id right.id),
    ("name", fun left right => compare left.title right.title),
    ("status", fun left right => compare left.status.rank right.status.rank),
    ("assignee", fun left right => compare left.assignee right.assignee),
    ("priority", fun left right => compare left.priority.rank right.priority.rank)] := rfl
  rw [orders]
  simp only [List.forall_mem_cons, List.not_mem_nil, false_imp_iff, implies_true, and_true]
  exact ⟨transCmp_key Task.id, transCmp_key Task.title,
    transCmp_key fun task : Task => task.status.rank, transCmp_key Task.assignee,
    transCmp_key fun task : Task => task.priority.rank⟩

theorem Registry.sortInPlace_in_turn_tasks :
    let specs := [⟨"priority", .descending⟩, ⟨"status", .ascending⟩, ⟨"priority", .ascending⟩]
    let described := specs ++ [⟨"description", .ascending⟩]
    let tasks := TaskStore.withSampleTasks.tasks
    ∃ sorted, sorted.map Task.id =
        ["task-1", "task-8", "task-3", "task-2", "task-6", "task-5", "task-4", "task-7"]
      ∧ (Task.schema.sortInPlace specs).run.run tasks = (.ok (), sorted)
      ∧ (forM specs.reverse fun spec => Task.schema.sortInPlace [spec]).run.run tasks =
        (.ok (), sorted)
      ∧ sorted.Perm tasks
      ∧ (Task.schema.sortInPlace specs).run.run sorted = (.ok (), sorted)
      ∧ ∃ failure, (Task.schema.sortInPlace described).run.run tasks = (.error failure, tasks) := by
  intro specs described tasks
  have preorders := Task.schema_hasPreorders
  obtain ⟨steps, sorted, -, -, ran, inTurn, -, perm, again⟩ :=
    (Registry.sortInPlace_in_turn preorders specs tasks).1 (by decide)
  obtain ⟨before, spec, after, -, -, -, -, failed⟩ :=
    (Registry.sortInPlace_in_turn preorders described tasks).2
      ⟨⟨"description", .ascending⟩, by decide, by decide⟩
  refine ⟨sorted, ?_, ran, inTurn, perm, again, _, failed⟩
  let byPriority := fun left right : Task => compare left.priority.rank right.priority.rank
  let byStatus := fun left right : Task => compare left.status.rank right.status.rank
  have same : (Task.schema.sortInPlace specs).run.run tasks =
      (.ok (), sortBySteps [(byPriority, .descending), (byStatus, .ascending),
        (byPriority, .ascending)] tasks) := rfl
  rw [(Prod.mk.inj (ran.symm.trans same)).2]
  cbv

end Inquiry
