import Inquiry.Outcome.Rendering
import Inquiry.Proofs.Outcome.Flattening
import Inquiry.Proofs.Outcome.Records

set_option autoImplicit false

namespace Inquiry

namespace Text

variable {text : List Char}

def EndsUnbroken (text : List Char) : Prop := ∃ front last, text = front ++ [last] ∧ last ≠ '\n'

def EndsInOneBreak (text : List Char) : Prop :=
  ∃ shown, EndsUnbroken shown ∧ text = shown ++ ['\n']

theorem endsUnbroken_concat (front : List Char) {last : Char} (plain : last ≠ '\n') :
    EndsUnbroken (front ++ [last]) :=
  ⟨front, last, rfl, plain⟩

theorem EndsUnbroken.append_left (ends : EndsUnbroken text) (front : List Char) :
    EndsUnbroken (front ++ text) := by
  obtain ⟨before, last, rfl, plain⟩ := ends
  rw [← List.append_assoc]
  exact endsUnbroken_concat _ plain

theorem endsUnbroken_of_not_mem (nonempty : text ≠ []) (unbroken : '\n' ∉ text) :
    EndsUnbroken text := by
  have split := List.dropLast_append_getLast nonempty
  refine ⟨text.dropLast, text.getLast nonempty, split.symm, fun isBreak => unbroken ?_⟩
  exact isBreak ▸ List.getLast_mem nonempty

theorem not_endsUnbroken_append_break (front : List Char) :
    ¬ EndsUnbroken (front ++ ['\n']) := by
  rintro ⟨before, last, same, plain⟩
  exact plain (List.singleton_inj.mp (List.append_inj' same rfl).2).symm

theorem EndsUnbroken.endsInOneBreak (ends : EndsUnbroken text) :
    EndsInOneBreak (text ++ ['\n']) :=
  ⟨text, ends, rfl⟩

theorem EndsInOneBreak.append_left (ends : EndsInOneBreak text) (front : List Char) :
    EndsInOneBreak (front ++ text) := by
  obtain ⟨shown, unbroken, rfl⟩ := ends
  rw [← List.append_assoc]
  exact (unbroken.append_left front).endsInOneBreak

theorem endsInOneBreak_flatten {texts : List (List Char)} (nonempty : texts ≠ [])
    (each : ∀ text ∈ texts, EndsInOneBreak text) : EndsInOneBreak texts.flatten := by
  obtain ⟨front, last, rfl⟩ := (List.eq_nil_or_concat' texts).resolve_left nonempty
  rw [List.flatten_append]
  simpa using (each last (by simp)).append_left front.flatten

theorem endsInOneBreak_intercalate (separator : List Char) {texts : List (List Char)}
    (nonempty : texts ≠ []) (each : ∀ text ∈ texts, EndsInOneBreak text) :
    EndsInOneBreak (separator.intercalate texts) := by
  induction texts with
  | nil => exact absurd rfl nonempty
  | cons first rest ih =>
    obtain ⟨here, later⟩ := List.forall_mem_cons.mp each
    cases rest with
    | nil => simpa using here
    | cons second others =>
      rw [List.intercalate_cons_cons]
      exact (ih (List.cons_ne_nil _ _) later).append_left _

end Text

open Text

namespace Text.Csv

theorem endsUnbroken_cell {text : List Char} (nonempty : text ≠ []) :
    EndsUnbroken (cell text) := by
  unfold cell
  split
  next => exact endsUnbroken_concat _ (by decide)
  next plain =>
    refine endsUnbroken_of_not_mem nonempty fun member => plain ?_
    exact List.any_eq_true.mpr ⟨'\n', member, rfl⟩

-- An empty cell at the end leaves the comma before it as the last character.
theorem endsUnbroken_intercalate {cells : List (List Char)} (nonempty : cells ≠ [])
    (notBlank : cells ≠ [[]]) : EndsUnbroken ([','].intercalate (cells.map cell)) := by
  induction cells with
  | nil => exact absurd rfl nonempty
  | cons first rest ih =>
    cases rest with
    | nil => simpa using endsUnbroken_cell (by simpa using notBlank)
    | cons second others =>
      rw [List.map_cons, List.map_cons, List.intercalate_cons_cons, ← List.map_cons]
      by_cases blank : second :: others = [[]]
      · have comma : EndsUnbroken (cell first ++ [',']) := endsUnbroken_concat _ (by decide)
        simpa [blank, cell] using comma
      · exact (ih (List.cons_ne_nil _ _) blank).append_left _

theorem endsInOneBreak_line (cells : List (List Char)) : EndsInOneBreak (line cells) := by
  unfold line
  split
  next => exact (endsUnbroken_concat ['"'] (by decide)).endsInOneBreak
  next => exact (endsUnbroken_concat ['"'] (by decide)).endsInOneBreak
  next nonempty notBlank => exact (endsUnbroken_intercalate nonempty notBlank).endsInOneBreak

end Text.Csv

namespace Block

theorem endsInOneBreak_fieldLine (field : String) (value : List Char) :
    EndsInOneBreak (fieldLine field value) := by
  have colon : EndsUnbroken (':' :: oneLine value) :=
    endsUnbroken_of_not_mem (List.cons_ne_nil _ _) (by simp [not_mem_oneLine])
  exact (colon.append_left field.toList).endsInOneBreak

variable {columns fields : List String} {block : Block}

theorem endsInOneBreak_table? {rows : List (List Json)} (made : table? columns rows = some block) :
    EndsInOneBreak block.text := by
  obtain ⟨lines, -, ⟨⟩⟩ := Option.bind_eq_some_iff.mp made
  rw [List.flatMap_def]
  refine endsInOneBreak_flatten (by simp) fun text member => ?_
  obtain ⟨cells, -, rfl⟩ := List.mem_map.mp member
  exact Csv.endsInOneBreak_line cells

theorem endsInOneBreak_record? {values : List Json} (nonempty : fields.zip values ≠ [])
    (made : record? fields values = some block) : EndsInOneBreak block.text := by
  obtain ⟨lines, read, ⟨⟩⟩ := Option.bind_eq_some_iff.mp made
  have each := mapM_eq_some_iff.mp read
  refine endsInOneBreak_flatten ?_ fun line member => ?_
  · have long := each.length_eq
    exact List.ne_nil_of_length_pos (long ▸ List.length_pos_of_ne_nil nonempty)
  · obtain ⟨entry, -, shown⟩ := exists_mem_of_forall₂ each member
    obtain ⟨value, -, rfl⟩ := Option.map_eq_some_iff.mp shown
    exact endsInOneBreak_fieldLine entry.1 value

end Block

def Slot.HasFields : Slot → Prop
  | record columns values => columns.zip values ≠ []
  | records _ _ | value _ | metadata _ | failure _ => True

theorem Block.endsInOneBreak_ofSlot? {slot : Slot} {block : Block} (fields : slot.HasFields)
    (made : ofSlot? slot = some block) : EndsInOneBreak block.text := by
  unfold ofSlot? at made
  split at made
  next => exact endsInOneBreak_table? made
  next => exact endsInOneBreak_record? fields made
  next => exact endsInOneBreak_record? (by simp) made
  next =>
    unfold objects? at made
    split at made
    next =>
      obtain ⟨rows, -, made⟩ := Option.bind_eq_some_iff.mp made
      exact endsInOneBreak_table? made
    next => cases made
  all_goals cases made

theorem Outcome.endsInOneBreak_renderCompact? {outcome : Outcome} {text : String}
    (fields : ∀ slot ∈ outcome.slots, slot.HasFields)
    (shown : outcome.renderCompact? = some text) : EndsInOneBreak text.toList := by
  obtain ⟨chars, made, rfl⟩ := Option.map_eq_some_iff.mp shown
  obtain ⟨blocks, nonempty, blocksOf, -, rfl⟩ := compactText?_eq_some_iff.mp made
  rw [String.toList_ofList]
  refine endsInOneBreak_intercalate _ ?_ fun text member => ?_
  · have long := blocksOf.length_eq
    have someBlock := List.ne_nil_of_length_pos (long ▸ List.length_pos_of_ne_nil nonempty)
    simpa using someBlock
  · obtain ⟨block, inBlocks, rfl⟩ := List.mem_map.mp member
    obtain ⟨slot, inSlots, same⟩ := exists_mem_of_forall₂ blocksOf inBlocks
    exact Block.endsInOneBreak_ofSlot? (fields slot inSlots) same

theorem Text.endsUnbroken_toString (number : Nat) : EndsUnbroken (toString number).toList := by
  rw [Nat.toString_eq_ofList_toDigits, String.toList_ofList]
  refine endsUnbroken_of_not_mem Nat.toDigits_ne_nil fun member => ?_
  have digit := Nat.isDigit_of_mem_toDigits (by decide) (by decide) member
  exact absurd digit (by decide)

namespace Json

theorem endsUnbroken_render (value : Json) : EndsUnbroken value.render.toList := by
  cases value with
  | null => exact endsUnbroken_concat "nul".toList (by decide)
  | bool value =>
    cases value with
    | false => exact endsUnbroken_concat "fals".toList (by decide)
    | true => exact endsUnbroken_concat "tru".toList (by decide)
  | number value =>
    cases value with
    | ofNat value => exact endsUnbroken_toString value
    | negSucc value =>
      have written : toString (Int.negSucc value) = "-" ++ toString (value + 1) := rfl
      rw [render, written, String.toList_append]
      exact (endsUnbroken_toString (value + 1)).append_left _
  | decimal numeral =>
    rw [render]
    refine endsUnbroken_of_not_mem (by simpa using numeral.nonempty) fun member => ?_
    have part := List.all_eq_true.mp numeral.plain '\n' member
    exact absurd part (by decide)
  | string text =>
    rw [render, renderString, String.toList_append]
    exact endsUnbroken_concat _ (by decide)
  | array items =>
    rw [render, String.toList_append]
    exact endsUnbroken_concat _ (by decide)
  | object entries =>
    rw [render, String.toList_append]
    exact endsUnbroken_concat _ (by decide)

end Json

end Inquiry
