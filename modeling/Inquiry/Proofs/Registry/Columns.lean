import Inquiry.Proofs.Outcome.Flattening
import Inquiry.Proofs.Outcome.Records
import Inquiry.Proofs.Registry.Projection

set_option autoImplicit false

namespace Inquiry

namespace Selector

variable {ι : Type} (selector : Selector ι)

theorem length_row (item : ι) : (selector.row item).length = selector.fields.length := by
  simp [row, fields]

theorem recordObject_row (item : ι) :
    Slot.recordObject selector.fields (selector.row item) = selector.apply item := by
  rw [Slot.recordObject, fields, row, List.zip_map']
  rfl

theorem toJson_project_item (item : ι) :
    (selector.project (.item item)).toJson = selector.apply item :=
  selector.recordObject_row item

theorem toJson_project_items (items : List ι) :
    (selector.project (.items items)).toJson = .array (items.map selector.apply) := by
  simp [project, Slot.toJson, Function.comp_def, recordObject_row]

def entries (item : ι) : Entries Json := selector.columns.map fun (name, read) => (name, read item)

theorem keys_entries (item : ι) : (selector.entries item).keys = selector.fields := by
  simp [Entries.keys, entries, fields]

theorem map_snd_entries (item : ι) : (selector.entries item).map Prod.snd = selector.row item := by
  simp [entries, row]

theorem apply_eq_object (once : selector.fields.Nodup) (item : ι) :
    selector.apply item = .object (selector.entries item) := by
  rw [← selector.keys_entries item] at once
  exact congrArg Json.object (Entries.ofPairs_of_nodup once)

end Selector

def IsFieldLine (field : String) (line : List Char) : Prop :=
  ∃ value, line = field.toList ++ ':' :: value ++ ['\n'] ∧ '\n' ∉ value

section

variable {columns : List String} {text : String}

theorem isFieldLine_zipWith {texts : List (List Char)} (long : columns.length = texts.length) :
    List.Forall₂ IsFieldLine columns (List.zipWith Block.fieldLine columns texts) := by
  induction columns generalizing texts with
  | nil => simp
  | cons field rest ih =>
    obtain ⟨first, others, rfl⟩ := List.exists_cons_of_length_eq_add_one long.symm
    exact .cons ⟨_, rfl, Text.not_mem_oneLine first⟩ (ih (Nat.succ_inj.mp long))

theorem exists_block_of_renderCompact? {slot : Slot}
    (shown : (Outcome.single slot).renderCompact? = some text) :
    ∃ block layout, Block.ofSlot? slot = some block ∧ slot.Flattens layout
      ∧ text.toList = block.text := by
  obtain ⟨chars, made, rfl⟩ := Option.map_eq_some_iff.mp shown
  obtain ⟨block, found, rfl⟩ := Option.map_eq_some_iff.mp made
  exact ⟨block, _, found, Block.exists_ofSlot?_iff.mp ⟨block, found, rfl⟩, by simp⟩

theorem lines_of_renderCompact?_records {rows : List (List Json)}
    (shown : (Outcome.single (.records columns rows)).renderCompact? = some text) :
    ∃ lines : Text.Csv.Table, lines.length = rows.length
      ∧ text.toList = Text.Csv.line (columns.map String.toList) ++ lines.flatMap Text.Csv.line
      ∧ (columns ≠ [] → Text.Csv.read text.toList = some [columns.map String.toList :: lines]) := by
  obtain ⟨block, layout, made, flattens, written⟩ := exists_block_of_renderCompact? shown
  obtain ⟨full, scalars⟩ : (∀ row ∈ rows, row.length = columns.length)
      ∧ ∀ row ∈ rows, ∀ value ∈ row, value.IsScalar := by
    cases flattens with
    | records full scalars => exact ⟨full, scalars⟩
  have tabular : (Slot.records columns rows).Tabular columns := .records full scalars
  obtain ⟨table, table?⟩ := tabular.exists_shownAs
  obtain rfl := Option.some.inj (made.symm.trans (tabular.ofSlot? table?))
  have someCells := fun someColumns => tabular.cells_ne_nil table? someColumns
  cases table? with
  | @records _ lines cells =>
    refine ⟨lines, cells.length_eq.symm, written, fun someColumns => ?_⟩
    rw [written]
    have read := Text.Csv.read_intercalate (List.cons_ne_nil (columns.map String.toList :: lines) [])
      (by simpa using someCells someColumns)
    simpa [Block.ofTable] using read

theorem lines_of_renderCompact?_record {values : List Json}
    (full : values.length = columns.length)
    (shown : (Outcome.single (.record columns values)).renderCompact? = some text) :
    ∃ lines, text.toList = List.flatten lines ∧ List.Forall₂ IsFieldLine columns lines := by
  obtain ⟨block, layout, made, flattens, written⟩ := exists_block_of_renderCompact? shown
  have scalars : ∀ entry ∈ columns.zip values, entry.2.IsScalar := by
    cases flattens with
    | record scalars => exact scalars
  obtain ⟨texts, cells⟩ : ∃ texts, List.Forall₂ Json.ShownAs values texts := by
    refine exists_forall₂ fun value member => Json.IsScalar.exists_shownAs ?_
    rw [← List.map_snd_zip full.le] at member
    obtain ⟨entry, within, rfl⟩ := List.mem_map.mp member
    exact scalars entry within
  obtain rfl := Option.some.inj (made.symm.trans (Block.record?_of_shownAs cells))
  exact ⟨_, written, isFieldLine_zipWith (full.symm.trans cells.length_eq)⟩

end

namespace Registry

variable {σ ι : Type} {registrations : List (Registration σ ι)} {schema : Schema σ ι}

theorem get?_fields_iff (built : (Draft.empty.registerAll registrations).build = .ok schema)
    {name : String} {read : ι → Json} :
    schema.fields.get? name = some read ↔
      Registration.field name read ∈ Draft.empty.accepted registrations := by
  have holds := Namespace.fields_appends.holds registrations
  have fields : schema.fields = (Draft.empty.accepted registrations).filterMap
      Namespace.fields.entry? := (Draft.builds_of_ok built).fields.trans holds.first
  have once : schema.fields.keys.Nodup := (Draft.builds_of_ok built).fields ▸ holds.once
  rw [← Entries.mem_iff_get? once, fields, List.mem_filterMap]
  constructor
  · rintro ⟨registration, made, entry⟩
    cases registration <;> cases entry
    exact made
  · exact fun made => ⟨_, made, rfl⟩

theorem nodup_fields_of_selector {η : Type} {registry : Registry σ ι η} {requested : List String}
    {selector : Selector ι} (resolved : registry.selector requested = .ok selector) :
    selector.fields.Nodup ∧ ∀ column ∈ selector.columns,
      registry.fields.get? column.1 = some column.2 := by
  rw [selector_eq_bind] at resolved
  obtain ⟨names, -, resolved⟩ := exists_of_bind_eq_ok resolved
  refine ⟨?_, registered_of_resolve resolved⟩
  rw [fields_of_resolve resolved]
  exact nodup_eraseDups names

structure ProjectsTo (schema : Schema σ ι) (selector : Selector ι) (item : ι)
    (entries : Entries Json) : Prop where
  object : selector.apply item = .object entries
  keys : entries.keys = selector.fields
  values : ∀ entry ∈ entries, ∃ read, schema.fields.get? entry.1 = some read ∧ entry.2 = read item

theorem projectsTo_of_selector {requested : List String} {selector : Selector ι}
    (resolved : schema.selector requested = .ok selector) (item : ι) :
    schema.ProjectsTo selector item (selector.entries item) where
  object := selector.apply_eq_object (nodup_fields_of_selector resolved).1 item
  keys := selector.keys_entries item
  values := by
    intro entry member
    obtain ⟨column, within, rfl⟩ := List.mem_map.mp member
    exact ⟨column.2, (nodup_fields_of_selector resolved).2 column within, rfl⟩

/-- What a request selects is shown of each element under all of its columns, in their order, in the
structured form as in the short one. -/
theorem projection_keeps_columns
    (built : (Draft.empty.registerAll registrations).build = .ok schema) {requested : List String}
    {selector : Selector ι} (resolved : schema.selector requested = .ok selector) :
    selector.fields.Nodup
    ∧ (∀ name read, schema.fields.get? name = some read ↔
      Registration.field name read ∈ Draft.empty.accepted registrations)
    ∧ (∀ item, (selector.row item).length = selector.fields.length)
    ∧ (∀ item, let slot := selector.project (.item item)
      ∃ entries, schema.ProjectsTo selector item entries
        ∧ slot = .record selector.fields (entries.map Prod.snd) ∧ slot.toJson = .object entries
        ∧ ∀ text, (Outcome.single slot).renderCompact? = some text →
          ∃ lines, text.toList = List.flatten lines
            ∧ List.Forall₂ IsFieldLine selector.fields lines)
    ∧ ∀ items, let slot := selector.project (.items items)
      ∃ objects, List.Forall₂ (schema.ProjectsTo selector) items objects
        ∧ slot = .records selector.fields (objects.map fun entries => entries.map Prod.snd)
        ∧ slot.toJson = .array (objects.map .object)
        ∧ ∀ text, (Outcome.single slot).renderCompact? = some text →
          ∃ lines : Text.Csv.Table, lines.length = items.length
            ∧ text.toList =
              Text.Csv.line (selector.fields.map String.toList) ++ lines.flatMap Text.Csv.line
            ∧ (selector.fields ≠ [] →
              Text.Csv.read text.toList = some [selector.fields.map String.toList :: lines]) := by
  have projects := projectsTo_of_selector resolved
  refine ⟨(nodup_fields_of_selector resolved).1, fun name read => get?_fields_iff built,
    selector.length_row, fun item => ?_, fun items => ?_⟩
  · refine ⟨_, projects item, ?_, ?_, fun text shown => ?_⟩
    · rw [Selector.map_snd_entries]
      rfl
    · rw [selector.toJson_project_item, (projects item).object]
    · exact lines_of_renderCompact?_record (selector.length_row item) shown
  · refine ⟨items.map selector.entries, ?_, ?_, ?_, fun text shown => ?_⟩
    · exact List.forall₂_map_right_iff.mpr (List.forall₂_same.mpr fun item _ => projects item)
    · rw [List.map_map, Function.comp_def, funext selector.map_snd_entries]
      rfl
    · rw [selector.toJson_project_items, List.map_map]
      exact congrArg Json.array (List.map_congr_left fun item _ => (projects item).object)
    · simpa using lines_of_renderCompact?_records shown

theorem projection_keeps_columns_preset :
    let registrations : List (Registration Unit String) :=
      [.field "id" Json.string, .field "size" fun text => .ofNat text.length,
        .preset "both" ["size", "id", "size"]]
    ∃ schema selector, (Draft.empty.registerAll registrations).build = .ok schema
      ∧ schema.selector ["both", "id"] = .ok selector ∧ selector.fields = ["size", "id"]
      ∧ (∃ entries, schema.ProjectsTo selector "a,\n" entries
        ∧ (selector.project (.item "a,\n")).toJson = .object entries)
      ∧ (∃ lines, "size:3\nid:a,\\n\n".toList = List.flatten lines
        ∧ List.Forall₂ IsFieldLine ["size", "id"] lines)
      ∧ ∃ lines, Text.Csv.read "size,id\n3,\"a,\n\"\n".toList =
        some [[["size".toList, "id".toList]] ++ lines] := by
  intro registrations
  obtain ⟨-, -, -, item, items⟩ :=
    @projection_keeps_columns Unit String registrations _ rfl ["both", "id"] _ rfl
  refine ⟨_, _, rfl, rfl, rfl, ?_, ?_, ?_⟩
  · obtain ⟨entries, projects, -, structured, -⟩ := item "a,\n"
    exact ⟨entries, projects, structured⟩
  · obtain ⟨-, -, -, -, short⟩ := item "a,\n"
    exact short "size:3\nid:a,\\n\n" (by decide +kernel)
  · obtain ⟨-, -, -, -, short⟩ := items ["a,\n"]
    obtain ⟨lines, -, -, read⟩ := short "size,id\n3,\"a,\n\"\n" (by decide +kernel)
    exact ⟨lines, read (by decide)⟩

end Registry

end Inquiry
