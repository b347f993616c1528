import Inquiry.Pipeline.Sort
import Mathlib.Data.List.Basic

set_option autoImplicit false

namespace Inquiry

variable {ι : Type}

def SortStep.Before (step : SortStep ι) (left right : ι) : Prop :=
  step.1 left right =
    match step.2 with
    | .ascending => .lt
    | .descending => .gt

def Ties (steps : List (SortStep ι)) (left right : ι) : Prop :=
  ∀ step ∈ steps, step.1 left right = .eq

instance (steps : List (SortStep ι)) (left right : ι) : Decidable (Ties steps left right) :=
  inferInstanceAs (Decidable (∀ step ∈ steps, step.1 left right = .eq))

def ComesBefore (steps : List (SortStep ι)) (left right : ι) : Prop :=
  ∃ tied step later, steps = tied ++ step :: later ∧ Ties tied left right ∧ step.Before left right

def Ordered (steps : List (SortStep ι)) (items : List ι) : Prop :=
  items.Pairwise fun earlier later => ComesBefore steps earlier later ∨ Ties steps earlier later

/-- The elements in the order that the steps ask for, those that tie in the order in which they
were. -/
structure Arranges (steps : List (SortStep ι)) (items arranged : List ι) : Prop where
  perm : arranged.Perm items
  ordered : Ordered steps arranged
  stable : ∀ item, arranged.filter (fun other => Ties steps item other) =
    items.filter fun other => Ties steps item other

/-- Arranging by one step after another, the last one first. -/
inductive ArrangesInTurn : List (SortStep ι) → List ι → List ι → Prop
  | nil {items : List ι} : ArrangesInTurn [] items items
  | cons {step : SortStep ι} {rest : List (SortStep ι)} {items middle arranged : List ι}
      (later : ArrangesInTurn rest items middle) (first : Arranges [step] middle arranged) :
      ArrangesInTurn (step :: rest) items arranged

def Preordered (steps : List (SortStep ι)) : Prop := ∀ step ∈ steps, Std.TransCmp step.1

section

variable {step : SortStep ι} {rest : List (SortStep ι)} {left right : ι}

theorem ties_cons_iff :
    Ties (step :: rest) left right ↔ Ties [step] left right ∧ Ties rest left right := by
  simp [Ties]

theorem comesBefore_cons_iff :
    ComesBefore (step :: rest) left right ↔
      step.Before left right ∨ Ties [step] left right ∧ ComesBefore rest left right := by
  constructor
  · rintro ⟨tied, decisive, later, split, ties, before⟩
    rcases List.cons_eq_append_iff.mp split with ⟨rfl, same⟩ | ⟨others, rfl, same⟩
    · cases same
      exact .inl before
    · obtain ⟨first, ties⟩ := ties_cons_iff.mp ties
      exact .inr ⟨first, others, decisive, later, same, ties, before⟩
  · rintro (before | ⟨first, tied, decisive, later, rfl, ties, before⟩)
    · exact ⟨[], step, rest, rfl, by simp [Ties], before⟩
    · exact ⟨step :: tied, decisive, later, rfl, ties_cons_iff.mpr ⟨first, ties⟩, before⟩

theorem comesBefore_singleton_iff :
    ComesBefore [step] left right ↔ step.Before left right := by
  rw [comesBefore_cons_iff]
  simp [ComesBefore]

end

def SortStep.order (step : SortStep ι) (left right : ι) : Ordering :=
  step.2.apply (step.1 left right)

theorem chainOrder_cons (step : SortStep ι) (rest : List (SortStep ι)) :
    chainOrder (step :: rest) = compareLex step.order (chainOrder rest) := rfl

section

variable {step : SortStep ι} {steps : List (SortStep ι)} {left right : ι}

theorem order_eq_eq_iff : step.order left right = .eq ↔ step.1 left right = .eq := by
  unfold SortStep.order SortDirection.apply
  cases step.2 <;> simp

theorem order_eq_lt_iff : step.order left right = .lt ↔ step.Before left right := by
  unfold SortStep.order SortDirection.apply SortStep.Before
  cases step.2 <;> simp

theorem chainOrder_eq_eq_iff : chainOrder steps left right = .eq ↔ Ties steps left right := by
  induction steps with
  | nil => simp [chainOrder, Ties]
  | cons step rest ih =>
    rw [chainOrder_cons, compareLex, Ordering.then_eq_eq, order_eq_eq_iff, ih, ties_cons_iff]
    simp [Ties]

theorem chainOrder_eq_lt_iff :
    chainOrder steps left right = .lt ↔ ComesBefore steps left right := by
  induction steps with
  | nil => simp [chainOrder, ComesBefore]
  | cons step rest ih =>
    rw [chainOrder_cons, compareLex, Ordering.then_eq_lt, order_eq_lt_iff, order_eq_eq_iff, ih,
      comesBefore_cons_iff]
    simp [Ties]

theorem isLE_chainOrder_iff :
    (chainOrder steps left right).isLE = true ↔
      ComesBefore steps left right ∨ Ties steps left right := by
  rw [← chainOrder_eq_lt_iff, ← chainOrder_eq_eq_iff]
  cases chainOrder steps left right <;> decide

theorem transCmp_order (preorder : Std.TransCmp step.1) : Std.TransCmp step.order := by
  obtain ⟨compare, direction⟩ := step
  cases direction with
  | ascending => exact preorder
  | descending =>
    have reversed : SortStep.order (compare, .descending) = fun left right => compare right left := by
      funext left right
      exact preorder.eq_swap.symm
    rw [reversed]
    exact Std.TransCmp.opposite

theorem transCmp_chainOrder (preordered : Preordered steps) : Std.TransCmp (chainOrder steps) := by
  induction steps with
  | nil => exact { eq_swap := rfl, isLE_trans := fun _ _ => rfl }
  | cons step rest ih =>
    obtain ⟨first, later⟩ := List.forall_mem_cons.mp preordered
    have order := transCmp_order first
    have chain := ih later
    rw [chainOrder_cons]
    infer_instance

theorem Preordered.ties_refl (preordered : Preordered steps) (item : ι) : Ties steps item item := by
  have chain := transCmp_chainOrder preordered
  exact chainOrder_eq_eq_iff.mp Std.ReflCmp.compare_self

theorem Preordered.ties_of_ties (preordered : Preordered steps) {item : ι}
    (first : Ties steps item left) (second : Ties steps item right) : Ties steps left right := by
  have chain := transCmp_chainOrder preordered
  rw [← chainOrder_eq_eq_iff] at first second ⊢
  rw [← Std.TransCmp.congr_left first, second]

theorem Preordered.ties_of_ordered (preordered : Preordered steps)
    (forth : ComesBefore steps left right ∨ Ties steps left right)
    (back : ComesBefore steps right left ∨ Ties steps right left) : Ties steps left right := by
  have chain := transCmp_chainOrder preordered
  rw [← isLE_chainOrder_iff] at forth back
  exact chainOrder_eq_eq_iff.mp (Std.OrientedCmp.isLE_antisymm forth back)

end

theorem filter_mergeSort {le : ι → ι → Bool}
    (trans : ∀ first second third, le first second → le second third → le first third)
    (total : ∀ first second, le first second || le second first) {keep : ι → Bool}
    (tied : ∀ first second, keep first → keep second → le first second) (items : List ι) :
    (items.mergeSort le).filter keep = items.filter keep := by
  have pairwise : (items.filter keep).Pairwise fun first second => le first second :=
    List.pairwise_of_forall_mem_list fun first inFirst second inSecond =>
      tied first second (List.mem_filter.mp inFirst).2 (List.mem_filter.mp inSecond).2
  have kept := (List.sublist_mergeSort trans total pairwise List.filter_sublist).filter keep
  simp only [List.filter_filter, Bool.and_self] at kept
  exact (kept.eq_of_length ((List.mergeSort_perm items le).filter keep).length_eq.symm).symm

section

variable {steps : List (SortStep ι)} {items first second : List ι}

theorem arranges_sortBySteps (preordered : Preordered steps) (items : List ι) :
    Arranges steps items (sortBySteps steps items) := by
  have chain := transCmp_chainOrder preordered
  have trans (first second third : ι) (forth : (chainOrder steps first second).isLE)
      (further : (chainOrder steps second third).isLE) : (chainOrder steps first third).isLE :=
    chain.isLE_trans forth further
  have total (first second : ι) :
      ((chainOrder steps first second).isLE || (chainOrder steps second first).isLE) = true := by
    rw [chain.eq_swap (a := second)]
    cases chainOrder steps first second <;> rfl
  constructor
  case perm => exact List.mergeSort_perm items _
  case ordered => exact (List.pairwise_mergeSort trans total items).imp isLE_chainOrder_iff.mp
  case stable =>
    intro item
    refine filter_mergeSort trans total (fun first second inFirst inSecond => ?_) items
    exact isLE_chainOrder_iff.mpr
      (.inr (preordered.ties_of_ties (of_decide_eq_true inFirst) (of_decide_eq_true inSecond)))

theorem Ordered.head (preordered : Preordered steps) {item other : ι} {rest : List ι}
    (ordered : Ordered steps (item :: rest)) (member : other ∈ item :: rest) :
    ComesBefore steps item other ∨ Ties steps item other := by
  rcases List.mem_cons.mp member with rfl | later
  · exact .inr (preordered.ties_refl other)
  · exact List.rel_of_pairwise_cons ordered later

theorem Preordered.mem_of_filter_eq (preordered : Preordered steps) {item : ι}
    (member : item ∈ first) (same : first.filter (fun other => Ties steps item other) =
      second.filter fun other => Ties steps item other) : item ∈ second := by
  have chosen : item ∈ first.filter fun other => Ties steps item other :=
    List.mem_filter.mpr ⟨member, decide_eq_true (preordered.ties_refl item)⟩
  rw [same] at chosen
  exact (List.mem_filter.mp chosen).1

-- The first elements of the lists tie with each other, so both are the first of the same class.
theorem Ordered.eq_of_stable (preordered : Preordered steps) (firstOrdered : Ordered steps first)
    (secondOrdered : Ordered steps second)
    (same : ∀ item, first.filter (fun other => Ties steps item other) =
      second.filter fun other => Ties steps item other) : first = second := by
  induction first generalizing second with
  | nil =>
    refine (List.eq_nil_iff_forall_not_mem.mpr fun item member => ?_).symm
    cases preordered.mem_of_filter_eq member (same item).symm
  | cons item rest ih =>
    cases second with
    | nil => cases preordered.mem_of_filter_eq List.mem_cons_self (same item)
    | cons other others =>
      have forth := firstOrdered.head preordered
        (preordered.mem_of_filter_eq List.mem_cons_self (same other).symm)
      have back := secondOrdered.head preordered
        (preordered.mem_of_filter_eq List.mem_cons_self (same item))
      have tied := preordered.ties_of_ordered forth back
      have heads : item = other := by
        have chosen := same item
        rw [List.filter_cons_of_pos (by simpa using preordered.ties_refl item),
          List.filter_cons_of_pos (by simpa using tied)] at chosen
        exact (List.cons.inj chosen).1
      subst heads
      congr 1
      refine ih firstOrdered.of_cons secondOrdered.of_cons fun another => ?_
      have chosen := same another
      by_cases chooses : Ties steps another item <;> simpa [List.filter_cons, chooses] using chosen

theorem arranges_iff (preordered : Preordered steps) :
    Arranges steps items first ↔ first = sortBySteps steps items := by
  have sorted := arranges_sortBySteps preordered items
  constructor
  · intro arranges
    exact arranges.ordered.eq_of_stable preordered sorted.ordered fun item =>
      (arranges.stable item).trans (sorted.stable item).symm
  · rintro rfl
    exact sorted

theorem sortBySteps_sortBySteps (preordered : Preordered steps) (items : List ι) :
    sortBySteps steps (sortBySteps steps items) = sortBySteps steps items :=
  List.mergeSort_of_pairwise
    ((arranges_sortBySteps preordered items).ordered.imp isLE_chainOrder_iff.mpr)

end

section

variable {step : SortStep ι} {rest : List (SortStep ι)} {items middle arranged : List ι}

theorem filter_ties_cons (item : ι) (items : List ι) :
    (items.filter fun other => Ties (step :: rest) item other) =
      (items.filter fun other => Ties [step] item other).filter fun other =>
        Ties rest item other := by
  rw [List.filter_filter]
  apply List.filter_congr
  intro other _
  rw [Bool.and_comm, ← Bool.decide_and, decide_eq_decide]
  exact ties_cons_iff

-- Elements that the last sort does not tell apart stand as the sorts before have put them.
theorem Arranges.cons (preorder : Std.TransCmp step.1) (later : Arranges rest items middle)
    (first : Arranges [step] middle arranged) : Arranges (step :: rest) items arranged := by
  have preordered : Preordered [step] := List.forall_mem_singleton.mpr preorder
  constructor
  case perm => exact first.perm.trans later.perm
  case stable =>
    intro item
    rw [filter_ties_cons, first.stable, List.filter_comm, later.stable, List.filter_comm,
      ← filter_ties_cons]
  case ordered =>
    refine List.pairwise_iff_forall_sublist.mpr fun {earlier next} both => ?_
    rcases List.pairwise_iff_forall_sublist.mp first.ordered both with before | tied
    · exact .inl (comesBefore_cons_iff.mpr (.inl (comesBefore_singleton_iff.mp before)))
    · have chosen := both.filter fun other => Ties [step] earlier other
      rw [first.stable, List.filter_eq_self.mpr] at chosen
      · have was := chosen.trans List.filter_sublist
        refine (List.pairwise_iff_forall_sublist.mp later.ordered was).imp (fun before => ?_)
          fun ties => ties_cons_iff.mpr ⟨tied, ties⟩
        exact comesBefore_cons_iff.mpr (.inr ⟨tied, before⟩)
      · simpa using ⟨preordered.ties_refl earlier, tied⟩

theorem sortBySteps_cons (preordered : Preordered (step :: rest)) (items : List ι) :
    sortBySteps (step :: rest) items = sortBySteps [step] (sortBySteps rest items) := by
  obtain ⟨first, later⟩ := List.forall_mem_cons.mp preordered
  symm
  rw [← arranges_iff preordered]
  exact (arranges_sortBySteps later items).cons first
    (arranges_sortBySteps (List.forall_mem_singleton.mpr first) _)

end

theorem arrangesInTurn_iff {steps : List (SortStep ι)} (preordered : Preordered steps)
    {items arranged : List ι} :
    ArrangesInTurn steps items arranged ↔ arranged = sortBySteps steps items := by
  induction steps generalizing arranged with
  | nil =>
    have unsorted : sortBySteps [] items = items :=
      List.mergeSort_of_pairwise (List.pairwise_of_forall fun _ _ => rfl)
    rw [unsorted]
    constructor
    · rintro ⟨⟩
      rfl
    · rintro rfl
      exact .nil
  | cons step rest ih =>
    obtain ⟨first, later⟩ := List.forall_mem_cons.mp preordered
    have single : Preordered [step] := List.forall_mem_singleton.mpr first
    rw [sortBySteps_cons preordered]
    constructor
    · rintro (_ | ⟨before, last⟩)
      rw [← (ih later).mp before]
      exact (arranges_iff single).mp last
    · rintro rfl
      exact .cons ((ih later).mpr rfl) (arranges_sortBySteps single _)

end Inquiry
