import Inquiry.Proofs.Outcome.Tables

set_option autoImplicit false

namespace Inquiry

section Lists

variable {α β : Type} {change : α → Option β} {items : List α} {results : List β}

theorem mapM_eq_some_iff :
    items.mapM change = some results ↔
      List.Forall₂ (fun item result => change item = some result) items results := by
  refine ⟨fun ran => ?_, mapM_eq_some_of_forall₂⟩
  induction items generalizing results with
  | nil =>
    cases ran
    exact .nil
  | cons item rest ih =>
    rw [List.mapM_cons] at ran
    obtain ⟨first, made, ran⟩ := Option.bind_eq_some_iff.mp ran
    obtain ⟨others, later, ⟨⟩⟩ := Option.bind_eq_some_iff.mp ran
    exact .cons made (ih later)

theorem exists_mapM_iff :
    (∃ results, items.mapM change = some results) ↔
      ∀ item ∈ items, ∃ result, change item = some result := by
  simp only [mapM_eq_some_iff]
  refine ⟨fun ⟨results, made⟩ item member => ?_, exists_forall₂⟩
  obtain ⟨index, found⟩ := List.mem_iff_getElem?.mp member
  obtain ⟨result, -, same⟩ := exists_getElem?_of_forall₂ made found
  exact ⟨result, same⟩

end Lists

inductive Slot.Flattens : Layout → Slot → Prop where
  | records {columns : List String} {rows : List (List Json)}
      (full : ∀ row ∈ rows, row.length = columns.length)
      (scalars : ∀ row ∈ rows, ∀ value ∈ row, value.IsScalar) :
      Flattens (.table columns) (.records columns rows)
  | record {columns : List String} {values : List Json}
      (scalars : ∀ entry ∈ columns.zip values, entry.2.IsScalar) :
      Flattens (.record columns) (.record columns values)
  | object {entries : Entries Json} (nonempty : entries ≠ [])
      (scalars : ∀ entry ∈ entries, entry.2.IsScalar) :
      Flattens (.record entries.keys) (.value (.object entries))
  | objects {columns : List String} {objects : List (Entries Json)} (nonempty : objects ≠ [])
      (common : ∀ entries ∈ objects, entries.keys = columns)
      (scalars : ∀ entries ∈ objects, ∀ entry ∈ entries, entry.2.IsScalar) :
      Flattens (.table columns) (.value (.array (objects.map .object)))

theorem Json.exists_scalarText?_iff {value : Json} :
    (∃ text, value.scalarText? = some text) ↔ value.IsScalar := by
  cases value <;> simp [scalarText?, IsScalar]

namespace Block

variable {columns : List String} {rows : List (List Json)} {values : List Json} {block : Block}
  {layout : Layout} {slot : Slot}

theorem exists_cells?_iff {row : List Json} :
    (∃ cells, cells? columns row = some cells) ↔
      row.length = columns.length ∧ ∀ value ∈ row, value.IsScalar := by
  unfold cells?
  split
  next full => simp only [full, true_and, exists_mapM_iff, Json.exists_scalarText?_iff]
  next short => simp [short]

theorem exists_table?_iff :
    (∃ block, table? columns rows = some block ∧ block.layout = layout) ↔
      layout = .table columns ∧ (∀ row ∈ rows, row.length = columns.length)
        ∧ ∀ row ∈ rows, ∀ value ∈ row, value.IsScalar := by
  have full : (∃ lines, rows.mapM (cells? columns) = some lines) ↔
      (∀ row ∈ rows, row.length = columns.length) ∧ ∀ row ∈ rows, ∀ value ∈ row, value.IsScalar := by
    simp only [exists_mapM_iff, exists_cells?_iff, forall_and]
  rw [← full]
  unfold table?
  cases rows.mapM (cells? columns) with
  | none => simp
  | some lines => simp [eq_comm]

theorem exists_record?_iff {fields : List String} :
    (∃ block, record? fields values = some block ∧ block.layout = layout) ↔
      layout = .record fields ∧ ∀ entry ∈ fields.zip values, entry.2.IsScalar := by
  have read : record? fields values
      = (fields.zip values).mapM (fun entry => entry.2.scalarText?.map (fieldLine entry.1)) >>=
        fun lines => some ⟨.record fields, lines.flatten⟩ := rfl
  have scalars : (∃ lines, (fields.zip values).mapM
      (fun entry => entry.2.scalarText?.map (fieldLine entry.1)) = some lines) ↔
      ∀ entry ∈ fields.zip values, entry.2.IsScalar := by
    simp [exists_mapM_iff, Json.exists_scalarText?_iff]
  rw [read, ← scalars]
  cases (fields.zip values).mapM fun entry => entry.2.scalarText?.map (fieldLine entry.1) with
  | none => simp
  | some lines => simp [eq_comm]

theorem rowOf?_eq_some_iff {item : Json} {row : List Json} :
    rowOf? columns item = some row ↔ ∃ entries : Entries Json, item = .object entries
      ∧ entries.keys = columns ∧ entries.map Prod.snd = row := by
  cases item <;> simp [rowOf?, Entries.keys]

theorem mapM_rowOf?_eq_some_iff {items : List Json} :
    items.mapM (rowOf? columns) = some rows ↔ ∃ objects : List (Entries Json),
      items = objects.map .object ∧ (∀ entries ∈ objects, entries.keys = columns)
        ∧ objects.map (fun entries => entries.map Prod.snd) = rows := by
  rw [mapM_eq_some_iff]
  constructor
  · intro read
    induction read with
    | nil => exact ⟨[], rfl, by simp, rfl⟩
    | cons first _ ih =>
      obtain ⟨entries, rfl, keys, rfl⟩ := rowOf?_eq_some_iff.mp first
      obtain ⟨objects, rfl, common, rfl⟩ := ih
      exact ⟨entries :: objects, rfl, List.forall_mem_cons.mpr ⟨keys, common⟩, rfl⟩
  · rintro ⟨objects, rfl, common, rfl⟩
    rw [List.forall₂_map_left_iff, List.forall₂_map_right_iff, List.forall₂_same]
    exact fun entries member => rowOf?_eq_some_iff.mpr ⟨entries, rfl, common entries member, rfl⟩

theorem exists_objects?_iff {items : List Json} :
    (∃ block, objects? items = some block ∧ block.layout = layout) ↔
      (Slot.value (.array items)).Flattens layout := by
  constructor
  · rintro ⟨block, made, same⟩
    unfold objects? at made
    split at made
    next first rest =>
      obtain ⟨rows, read, made⟩ := Option.bind_eq_some_iff.mp made
      obtain ⟨objects, whole, common, rfl⟩ := mapM_rowOf?_eq_some_iff.mp read
      obtain ⟨rfl, -, scalars⟩ := exists_table?_iff.mp ⟨block, made, same⟩
      rw [whole]
      refine .objects ?_ common fun entries member entry within => ?_
      · rintro rfl
        cases whole
      · exact scalars _ (List.mem_map_of_mem member) _ (List.mem_map_of_mem within)
    next => cases made
  · intro flattens
    obtain - | - | - | @⟨columns, objects, nonempty, common, scalars⟩ := flattens
    cases objects with
    | nil => exact absurd rfl nonempty
    | cons first rest =>
      have keys : first.map Prod.fst = columns := common first List.mem_cons_self
      have read := mapM_rowOf?_eq_some_iff.mpr ⟨first :: rest, rfl, common, rfl⟩
      rw [List.map_cons] at read ⊢
      simp only [objects?, keys, read, Option.bind_eq_bind, Option.bind_some]
      refine exists_table?_iff.mpr ⟨rfl, ?_, ?_⟩
      · intro row member
        obtain ⟨entries, within, rfl⟩ := List.mem_map.mp member
        rw [← common entries within]
        simp [Entries.keys]
      · intro row member value inRow
        obtain ⟨entries, within, rfl⟩ := List.mem_map.mp member
        obtain ⟨entry, inEntries, rfl⟩ := List.mem_map.mp inRow
        exact scalars entries within entry inEntries

theorem exists_ofSlot?_iff :
    (∃ block, ofSlot? slot = some block ∧ block.layout = layout) ↔ slot.Flattens layout := by
  constructor
  · rintro ⟨block, made, same⟩
    unfold ofSlot? at made
    split at made
    next columns rows =>
      obtain ⟨rfl, full, scalars⟩ := exists_table?_iff.mp ⟨block, made, same⟩
      exact .records full scalars
    next columns values =>
      obtain ⟨rfl, scalars⟩ := exists_record?_iff.mp ⟨block, made, same⟩
      exact .record scalars
    next entry rest =>
      obtain ⟨rfl, scalars⟩ := exists_record?_iff.mp ⟨block, made, same⟩
      rw [← List.zip_of_prod rfl rfl] at scalars
      exact .object (List.cons_ne_nil entry rest) scalars
    next items => exact exists_objects?_iff.mp ⟨block, made, same⟩
    all_goals cases made
  · intro flattens
    cases flattens with
    | records full scalars => exact exists_table?_iff.mpr ⟨rfl, full, scalars⟩
    | record scalars => exact exists_record?_iff.mpr ⟨rfl, scalars⟩
    | @object entries nonempty scalars =>
      cases entries with
      | nil => exact absurd rfl nonempty
      | cons entry rest =>
        refine exists_record?_iff.mpr ⟨rfl, ?_⟩
        rwa [← List.zip_of_prod rfl rfl]
    | objects nonempty common scalars =>
      exact exists_objects?_iff.mpr (.objects nonempty common scalars)

end Block

namespace Slot

def shown : Slot → List Json
  | record columns values => (columns.zip values).map Prod.snd
  | records _ rows => rows.flatten
  | value (.object entries) => entries.map Prod.snd
  | value (.array items) => items.flatMap fun item =>
    match item with
    | .object entries => entries.map Prod.snd
    | _ => []
  | value _ | metadata _ | failure _ => []

theorem Flattens.isFailure_eq_false {layout : Layout} {slot : Slot}
    (flattens : slot.Flattens layout) : slot.isFailure = false := by
  cases flattens <;> rfl

theorem Flattens.isScalar_of_mem_shown {layout : Layout} {slot : Slot}
    (flattens : slot.Flattens layout) : ∀ value ∈ slot.shown, value.IsScalar := by
  intro value member
  cases flattens with
  | records full scalars =>
    obtain ⟨row, inRows, within⟩ := List.mem_flatten.mp member
    exact scalars row inRows value within
  | record scalars =>
    obtain ⟨entry, within, rfl⟩ := List.mem_map.mp member
    exact scalars entry within
  | object nonempty scalars =>
    obtain ⟨entry, within, rfl⟩ := List.mem_map.mp member
    exact scalars entry within
  | objects nonempty common scalars =>
    obtain ⟨item, inItems, inItem⟩ := List.mem_flatMap.mp member
    obtain ⟨entries, inObjects, rfl⟩ := List.mem_map.mp inItems
    obtain ⟨entry, within, rfl⟩ := List.mem_map.mp inItem
    exact scalars entries inObjects entry within

end Slot

namespace Outcome

def Flattens (outcome : Outcome) : Prop :=
  outcome.slots ≠ [] ∧ ∃ layout, ∀ slot ∈ outcome.slots, slot.Flattens layout

theorem blocks?_eq_some_iff {slots : List Slot} {blocks : List Block} :
    blocks? slots = some blocks ↔ slots ≠ []
      ∧ List.Forall₂ (fun slot block => Block.ofSlot? slot = some block) slots blocks
      ∧ ∃ layout, ∀ block ∈ blocks, block.layout = layout := by
  rw [← mapM_eq_some_iff, blocks?]
  cases made : slots.mapM Block.ofSlot? with
  | none => simp
  | some others =>
    have long := (mapM_eq_some_iff.mp made).length_eq
    cases others with
    | nil => simp_all
    | cons first rest =>
      have nonempty : slots ≠ [] := List.ne_nil_of_length_eq_add_one long
      have alike : ((first :: rest).all fun block => block.layout = first.layout) = true ↔
          ∃ layout, ∀ block ∈ first :: rest, block.layout = layout := by
        simp only [List.all_eq_true, decide_eq_true_eq]
        refine ⟨fun all => ⟨_, all⟩, ?_⟩
        rintro ⟨layout, all⟩ block member
        rw [all block member, all first List.mem_cons_self]
      simp only [Option.bind_eq_bind, Option.bind_some, List.head?_cons,
        Option.ite_none_right_eq_some, Option.some.injEq, alike, nonempty, ne_eq,
        not_false_eq_true, true_and]
      constructor
      · rintro ⟨alike, rfl⟩
        exact ⟨rfl, alike⟩
      · rintro ⟨rfl, alike⟩
        exact ⟨alike, rfl⟩

theorem compactText?_eq_some_iff {outcome : Outcome} {text : List Char} :
    outcome.compactText? = some text ↔ ∃ blocks, outcome.slots ≠ []
      ∧ List.Forall₂ (fun slot block => Block.ofSlot? slot = some block) outcome.slots blocks
      ∧ (∃ layout, ∀ block ∈ blocks, block.layout = layout)
      ∧ ['\n'].intercalate (blocks.map Block.text) = text := by
  cases outcome with
  | single slot =>
    rw [compactText?, Option.map_eq_some_iff]
    constructor
    · rintro ⟨block, made, rfl⟩
      exact ⟨[block], by simp [slots], .cons made .nil, ⟨block.layout, by simp⟩, by simp⟩
    · rintro ⟨blocks, -, all, -, rfl⟩
      obtain ⟨block, _, made, none, rfl⟩ := List.forall₂_cons_left_iff.mp all
      obtain rfl := List.forall₂_nil_left_iff.mp none
      exact ⟨block, made, by simp⟩
  | batch slots =>
    rw [compactText?, Option.map_eq_some_iff]
    simp only [blocks?_eq_some_iff, and_assoc, Outcome.slots]

theorem exists_compactText?_iff {outcome : Outcome} :
    (∃ text, outcome.compactText? = some text) ↔ outcome.Flattens := by
  constructor
  · rintro ⟨text, shown⟩
    obtain ⟨blocks, nonempty, made, ⟨layout, alike⟩, -⟩ := compactText?_eq_some_iff.mp shown
    refine ⟨nonempty, layout, fun slot member => ?_⟩
    obtain ⟨index, found⟩ := List.mem_iff_getElem?.mp member
    obtain ⟨block, there, same⟩ := exists_getElem?_of_forall₂ made found
    exact Block.exists_ofSlot?_iff.mp ⟨block, same, alike block (List.mem_of_getElem? there)⟩
  · rintro ⟨nonempty, layout, flattens⟩
    obtain ⟨blocks, made⟩ := exists_forall₂ fun slot member =>
      Block.exists_ofSlot?_iff.mpr (flattens slot member)
    refine ⟨_, compactText?_eq_some_iff.mpr ⟨blocks, nonempty, made.imp fun _ _ => And.left,
      ⟨layout, fun block member => ?_⟩, rfl⟩⟩
    obtain ⟨slot, -, -, same⟩ := exists_mem_of_forall₂ made member
    exact same

theorem exists_renderCompact?_iff {outcome : Outcome} :
    (∃ text, outcome.renderCompact? = some text) ↔ outcome.Flattens := by
  rw [← exists_compactText?_iff, renderCompact?]
  cases outcome.compactText? <;> simp

theorem render_of_not_flattens {outcome : Outcome} (fails : ¬ outcome.Flattens) :
    outcome.render .compact = outcome.render .structured := by
  have none : outcome.renderCompact? = none := by
    rw [← exists_renderCompact?_iff, ← Option.isSome_iff_exists] at fails
    simpa using fails
  simp [render, none]

/-- An outcome has a short form just when it has slots and these are tables or records of scalars,
all of one layout. -/
theorem render_compact_flattens (outcome : Outcome) :
    ((∃ text, outcome.renderCompact? = some text) ↔ outcome.Flattens)
    ∧ (¬ outcome.Flattens → outcome.render .compact = outcome.render .structured)
    ∧ (∀ slot ∈ outcome.slots, slot.isFailure = true ∨ (∃ document, slot = .metadata document)
        ∨ (∃ value ∈ slot.shown, ¬ value.IsScalar) →
      outcome.render .compact = outcome.render .structured)
    ∧ (outcome.Flattens → ∃ texts,
      List.Forall₂ (fun slot text => (single slot).renderCompact? = some text) outcome.slots texts
        ∧ outcome.render .compact = "\n".intercalate texts) := by
  refine ⟨exists_renderCompact?_iff, render_of_not_flattens, ?_, ?_⟩
  · intro slot member odd
    refine render_of_not_flattens fun ⟨_, layout, all⟩ => ?_
    have flattens := all slot member
    rcases odd with failed | ⟨document, rfl⟩ | ⟨value, within, nested⟩
    · rw [flattens.isFailure_eq_false] at failed
      cases failed
    · cases flattens
    · exact nested (flattens.isScalar_of_mem_shown value within)
  · intro flattens
    obtain ⟨text, shown⟩ := exists_compactText?_iff.mpr flattens
    obtain ⟨blocks, -, made, -, rfl⟩ := compactText?_eq_some_iff.mp shown
    refine ⟨blocks.map fun block => String.ofList block.text, ?_, ?_⟩
    · rw [List.forall₂_map_right_iff]
      exact made.imp fun slot block same => by simp [renderCompact?, compactText?, same]
    · rw [← String.toList_inj]
      simp [render, renderCompact?, shown, String.toList_intercalate, Function.comp_def]

theorem render_compact_flattens_tables :
    let rows := Slot.records ["id"] [[.number 1], [.null]]
    let objects := Slot.value (.array [.object [("id", .string "a,b")]])
    let record := Slot.record ["id"] [.number 1, .array []]
    let nested := Slot.records ["id"] [[.array []]]
    (batch [rows, objects]).Flattens ∧ (single record).Flattens
      ∧ (∃ text, (batch [rows, objects]).renderCompact? = some text)
      ∧ (∃ text, (single rows).renderCompact? = some text
        ∧ (batch [rows, objects]).render .compact = "\n".intercalate [text, "id\n\"a,b\"\n"])
      ∧ (batch [rows, record]).render .compact = (batch [rows, record]).render .structured
      ∧ (batch [rows, nested]).render .compact = (batch [rows, nested]).render .structured := by
  intro rows objects record nested
  have rowsFlatten : rows.Flattens (.table ["id"]) :=
    .records (by decide) (by simp [Json.IsScalar])
  have objectsFlatten : objects.Flattens (.table ["id"]) :=
    @Slot.Flattens.objects ["id"] [[("id", .string "a,b")]] (by simp) (by decide)
      (by simp [Json.IsScalar])
  have recordFlattens : record.Flattens (.record ["id"]) := .record (by simp [Json.IsScalar])
  have together : (batch [rows, objects]).Flattens :=
    ⟨by simp [slots], .table ["id"], by simp [slots, rowsFlatten, objectsFlatten]⟩
  have alone : (single record).Flattens :=
    ⟨by simp [slots], .record ["id"], by simp [slots, recordFlattens]⟩
  obtain ⟨short, -, -, joined⟩ := render_compact_flattens (batch [rows, objects])
  obtain ⟨-, apart, -, -⟩ := render_compact_flattens (batch [rows, record])
  obtain ⟨-, -, odd, -⟩ := render_compact_flattens (batch [rows, nested])
  refine ⟨together, alone, short.mpr together, ?_, apart ?_, ?_⟩
  · obtain ⟨_, made, rendered⟩ := joined together
    obtain ⟨text, _, first, later, rfl⟩ := List.forall₂_cons_left_iff.mp made
    obtain ⟨other, _, second, none, rfl⟩ := List.forall₂_cons_left_iff.mp later
    obtain rfl := List.forall₂_nil_left_iff.mp none
    have written : (single objects).renderCompact? = some "id\n\"a,b\"\n" := by decide +kernel
    obtain rfl := Option.some.inj (second.symm.trans written)
    exact ⟨text, first, rendered⟩
  · rintro ⟨-, layout, all⟩
    obtain ⟨table, other⟩ : rows.Flattens layout ∧ record.Flattens layout := by
      simpa [slots] using all
    dsimp only [rows, record] at table other
    cases table
    cases other
  · exact odd nested (by simp [slots])
      (.inr (.inr ⟨.array [], by simp [nested, Slot.shown], by simp [Json.IsScalar]⟩))

end Outcome

end Inquiry
