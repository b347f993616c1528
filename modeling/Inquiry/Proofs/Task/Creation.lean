import Inquiry.Proofs.Task.Numbering

set_option autoImplicit false

namespace Inquiry.TaskStore

def createAll (proposals : List Task.Proposal) : Action TaskStore (List Task) :=
  proposals.mapM create

theorem create_run (proposal : Task.Proposal) (store : TaskStore) :
    (create proposal).run store = ⟨.ok (store.taskOf proposal), store.add proposal,
      [⟨.debug, s!"created {(store.taskOf proposal).id}"⟩]⟩ := rfl

theorem createAll_cons (proposal : Task.Proposal) (rest : List Task.Proposal) :
    createAll (proposal :: rest) =
      create proposal >>= fun task => createAll rest >>= fun made => pure (task :: made) :=
  List.mapM_cons

theorem createAll_run (proposals : List Task.Proposal) (store : TaskStore) :
    ∃ made log, (createAll proposals).run store =
        ⟨.ok made, ⟨store.tasks ++ made, store.nextId + proposals.length⟩, log⟩
      ∧ made.map Task.id = (List.range' store.nextId proposals.length).map idOf := by
  induction proposals generalizing store with
  | nil => exact ⟨[], [], by simp [createAll], rfl⟩
  | cons proposal rest ih =>
    obtain ⟨made, log, ran, numbers⟩ := ih (store.add proposal)
    let created : LogRecord := ⟨.debug, s!"created {(store.taskOf proposal).id}"⟩
    refine ⟨store.taskOf proposal :: made, created :: log, ?_, ?_⟩
    · rw [createAll_cons, Action.run_bind_of_ok _ (create_run proposal store),
        Action.run_bind_of_ok _ ran]
      simp [add, created, Nat.add_assoc, Nat.add_comm 1]
    · rw [List.map_cons, numbers, List.length_cons, List.range'_succ, List.map_cons]
      rfl

section Ids

variable (store : TaskStore) (proposals : List Task.Proposal)

theorem ids_createAll :
    ((createAll proposals).run store).state.ids =
      store.ids ++ (List.range' store.nextId proposals.length).map idOf := by
  obtain ⟨made, log, ran, numbers⟩ := createAll_run proposals store
  rw [ran, ids, List.map_append, numbers]
  rfl

theorem nextId_createAll :
    ((createAll proposals).run store).state.nextId = store.nextId + proposals.length := by
  obtain ⟨made, log, ran, -⟩ := createAll_run proposals store
  rw [ran]

theorem ids_add (proposal : Task.Proposal) :
    (store.add proposal).ids = store.ids ++ [idOf store.nextId] := by
  simp [ids, add, taskOf]

end Ids

theorem nodup_map_idOf {numbers : List Nat} (distinct : numbers.Nodup) :
    (numbers.map idOf).Nodup := by
  rw [List.Nodup, List.pairwise_map]
  exact distinct.imp fun different same => different (idOf_injective same)

theorem nodup_ids_createAll (store : TaskStore) (proposals : List Task.Proposal) :
    ((createAll proposals).run store).state.ids.Nodup ↔ store.ids.Nodup
      ∧ ∀ number, store.nextId ≤ number → number < store.nextId + proposals.length →
        idOf number ∉ store.ids := by
  rw [ids_createAll, List.nodup_append]
  constructor
  · rintro ⟨distinct, -, apart⟩
    refine ⟨distinct, fun number least bound member => ?_⟩
    have given := List.mem_map_of_mem (f := idOf) (List.mem_range'_1.mpr ⟨least, bound⟩)
    exact apart _ member _ given rfl
  · rintro ⟨distinct, unused⟩
    refine ⟨distinct, nodup_map_idOf List.nodup_range', ?_⟩
    rintro _ member _ given rfl
    obtain ⟨number, inRange, rfl⟩ := List.mem_map.mp given
    obtain ⟨least, bound⟩ := List.mem_range'_1.mp inRange
    exact unused number least bound member

theorem ids_create_createAll (store : TaskStore) (proposals : List Task.Proposal)
    (proposal : Task.Proposal) :
    (((createAll proposals).run store).state.add proposal).ids =
      ((createAll (proposals ++ [proposal])).run store).state.ids := by
  rw [ids_add, ids_createAll, ids_createAll, nextId_createAll, List.length_append,
    List.length_singleton, List.range'_1_concat, List.map_append, List.append_assoc,
    List.map_singleton]

/-- While the counter has room, tasks are numbered on from the length of the given list. Every one
gets an id that no task has, and all ids stay distinct, just when the list has none of the ids that
the counter can still give. -/
theorem create_new_iff {tasks : List Task} (distinct : (tasks.map Task.id).Nodup) :
    (∀ proposals, (ofTasks tasks).HasRoom proposals.length →
      let ran := (createAll proposals).run (ofTasks tasks)
      ∃ made, ran.answer = .ok made ∧ ran.state.tasks = tasks ++ made
        ∧ made.map Task.id = (List.range' (tasks.length + 1) proposals.length).map idOf)
    ∧ ((∀ number, tasks.length < number → number + 1 < Text.countBound →
        ∀ task ∈ tasks, task.id ≠ idOf number) ↔
      ∀ proposals proposal, (ofTasks tasks).HasRoom (proposals.length + 1) →
        let store := ((createAll proposals).run (ofTasks tasks)).state
        let ran := (create proposal).run store
        ∃ task, ran.answer = .ok task ∧ task.id ∉ store.ids ∧ ran.state.ids.Nodup) := by
  refine ⟨?_, ?_, ?_⟩
  · intro proposals _ ran
    obtain ⟨made, log, same, numbers⟩ := createAll_run proposals (ofTasks tasks)
    exact ⟨made, congrArg Ran.answer same, congrArg (fun ran => ran.state.tasks) same, numbers⟩
  · intro free proposals proposal room store ran
    have kept : (store.add proposal).ids.Nodup := by
      rw [ids_create_createAll, nodup_ids_createAll]
      refine ⟨distinct, fun number least below member => ?_⟩
      obtain ⟨task, inTasks, same⟩ := List.mem_map.mp member
      rw [List.length_append, List.length_singleton] at below
      exact free number least (Nat.lt_of_le_of_lt below room) task inTasks same
    refine ⟨store.taskOf proposal, rfl, ?_, kept⟩
    rw [ids_add, List.nodup_append] at kept
    intro member
    exact kept.2.2 _ member _ (List.mem_singleton.mpr rfl) rfl
  · intro always number above fits task inTasks same
    -- After the creations that come before it, the next one gives that number.
    let proposal : Task.Proposal := ⟨"", .todo, "", .medium⟩
    let earlier := List.replicate (number - (tasks.length + 1)) proposal
    have reached : (ofTasks tasks).nextId + earlier.length = number := by
      simp only [ofTasks, earlier, List.length_replicate]
      omega
    have room : (ofTasks tasks).HasRoom (earlier.length + 1) := by
      rw [HasRoom, ← Nat.add_assoc, reached]
      exact fits
    obtain ⟨_, -, -, kept⟩ := always earlier proposal room
    rw [create_run, ids_create_createAll, nodup_ids_createAll] at kept
    refine kept.2 number above ?_ (same ▸ List.mem_map_of_mem inTasks)
    rw [List.length_append, List.length_singleton, ← Nat.add_assoc, reached]
    exact Nat.lt_succ_self number

-- One task has another number than its place, one has none, and the last has one that is never
-- given.
theorem create_new_iff_gap :
    let tasks : List Task := [⟨idOf 2, "a", .todo, "", .low, ""⟩,
      ⟨"bug-7", "b", .done, "", .high, ""⟩, ⟨idOf Text.countBound, "c", .todo, "", .low, ""⟩]
    let proposals : List Task.Proposal := [⟨"d", .todo, "", .low⟩, ⟨"e", .todo, "", .low⟩]
    (tasks.map Task.id).Nodup ∧ (ofTasks tasks).HasRoom proposals.length
    ∧ (∃ made, ((createAll proposals).run (ofTasks tasks)).answer = .ok made
      ∧ made.map Task.id = ["task-4", "task-5"])
    ∧ ∀ others proposal, (ofTasks tasks).HasRoom (others.length + 1) →
      let store := ((createAll others).run (ofTasks tasks)).state
      let ran := (create proposal).run store
      ∃ task, ran.answer = .ok task ∧ task.id ∉ store.ids ∧ ran.state.ids.Nodup := by
  intro tasks proposals
  have distinct : (tasks.map Task.id).Nodup := by decide
  have room : (ofTasks tasks).HasRoom proposals.length := by
    rw [HasRoom]
    decide
  obtain ⟨made, answer, -, ids⟩ := (create_new_iff distinct).1 proposals room
  refine ⟨distinct, room, ⟨made, answer, ids.trans (by decide)⟩, (create_new_iff distinct).2.mp ?_⟩
  intro number above fits task member same
  rcases List.mem_cons.mp member with rfl | member
  · rw [← idOf_injective same] at above
    exact absurd above (by decide)
  rcases List.mem_cons.mp member with rfl | member
  · have texts := congrArg String.toList same
    rw [toList_idOf] at texts
    cases texts
  · obtain rfl := List.mem_singleton.mp member
    rw [← idOf_injective same] at fits
    exact absurd fits (by decide)

theorem create_not_new :
    let tasks : List Task := [⟨"task-2", "a", .todo, "", .medium, ""⟩]
    let store := ofTasks tasks
    let ran := (create ⟨"b", .todo, "", .medium⟩).run store
    (tasks.map Task.id).Nodup ∧ tasks.length < Text.countBound - 1
    ∧ ∃ task, ran.answer = .ok task ∧ task.id ∈ store.ids ∧ ¬ ran.state.ids.Nodup :=
  ⟨by decide, by decide, _, rfl, by decide, by decide⟩

end Inquiry.TaskStore
