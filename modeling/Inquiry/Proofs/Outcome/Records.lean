import Inquiry.Proofs.Outcome.Tables

set_option autoImplicit false

namespace Inquiry

namespace Text

def oneLine (text : List Char) : List Char := text.flatMap Block.withoutBreaks

def withBreaks : List Char → List Char
  | '\\' :: 'n' :: rest => '\n' :: withBreaks rest
  | '\\' :: 'r' :: rest => '\r' :: withBreaks rest
  | char :: rest => char :: withBreaks rest
  | [] => []

def HoldsEscape (text : List Char) : Prop := ['\\', 'n'] <:+: text ∨ ['\\', 'r'] <:+: text

theorem holdsEscape_cons_iff {char : Char} {rest : List Char} :
    HoldsEscape (char :: rest) ↔
      (char = '\\' ∧ (['n'] <+: rest ∨ ['r'] <+: rest)) ∨ HoldsEscape rest := by
  simp only [HoldsEscape, List.infix_cons_iff, List.cons_prefix_cons, eq_comm (a := '\\')]
  tauto

theorem withBreaks_cons {char : Char} {rest : List Char}
    (plain : char = '\\' → ¬ (['n'] <+: rest ∨ ['r'] <+: rest)) :
    withBreaks (char :: rest) = char :: withBreaks rest := by
  rw [withBreaks]
  · rintro after backslash rfl
    exact plain backslash (.inl ⟨after, rfl⟩)
  · rintro after backslash rfl
    exact plain backslash (.inr ⟨after, rfl⟩)

-- No character of a text comes out as an `n` or an `r` but these letters themselves.
theorem letter_prefix_oneLine_iff {letter : Char} (letters : letter = 'n' ∨ letter = 'r')
    {text : List Char} : [letter] <+: oneLine text ↔ [letter] <+: text := by
  cases text with
  | nil => rfl
  | cons char rest =>
    by_cases feed : char = '\n'
    · rcases letters with rfl | rfl <;> simp [oneLine, Block.withoutBreaks, feed]
    · by_cases carriage : char = '\r'
      · rcases letters with rfl | rfl <;> simp [oneLine, Block.withoutBreaks, carriage]
      · simp [oneLine, Block.withoutBreaks, feed, carriage]

theorem withBreaks_oneLine {text : List Char} (plain : ¬ HoldsEscape text) :
    withBreaks (oneLine text) = text := by
  induction text with
  | nil => rfl
  | cons char rest ih =>
    rw [holdsEscape_cons_iff, not_or] at plain
    obtain ⟨here, later⟩ := plain
    by_cases feed : char = '\n'
    · simpa [oneLine, Block.withoutBreaks, feed, withBreaks] using ih later
    · by_cases carriage : char = '\r'
      · simpa [oneLine, Block.withoutBreaks, carriage, withBreaks] using ih later
      · have kept : oneLine (char :: rest) = char :: oneLine rest := by
          simp [oneLine, Block.withoutBreaks, feed, carriage]
        rw [kept, withBreaks_cons, ih later]
        rw [letter_prefix_oneLine_iff (.inl rfl), letter_prefix_oneLine_iff (.inr rfl)]
        exact fun backslash within => here ⟨backslash, within⟩

theorem oneLine_withBreaks (text : List Char) : oneLine (withBreaks text) = oneLine text := by
  fun_induction withBreaks text with
  | case1 rest ih => simpa [oneLine, Block.withoutBreaks] using ih
  | case2 rest ih => simpa [oneLine, Block.withoutBreaks] using ih
  | case3 char rest _ _ ih => simpa [oneLine] using ih
  | case4 => rfl

theorem not_holdsEscape_withBreaks (text : List Char) : ¬ HoldsEscape (withBreaks text) := by
  fun_induction withBreaks text with
  | case1 rest ih => simpa [holdsEscape_cons_iff] using ih
  | case2 rest ih => simpa [holdsEscape_cons_iff] using ih
  | case3 char rest notFeed notCarriage ih =>
    rw [holdsEscape_cons_iff]
    rintro (⟨backslash, within⟩ | within)
    · -- The letter after the backslash would stand in the text that is read, too.
      rw [← letter_prefix_oneLine_iff (.inl rfl), ← letter_prefix_oneLine_iff (.inr rfl),
        oneLine_withBreaks, letter_prefix_oneLine_iff (.inl rfl),
        letter_prefix_oneLine_iff (.inr rfl)] at within
      rcases within with ⟨after, rfl⟩ | ⟨after, rfl⟩
      · exact notFeed after backslash rfl
      · exact notCarriage after backslash rfl
    · exact ih within
  | case4 => simp [HoldsEscape]

theorem not_mem_oneLine (text : List Char) : '\n' ∉ oneLine text := by
  intro member
  obtain ⟨char, -, within⟩ := List.mem_flatMap.mp member
  unfold Block.withoutBreaks at within
  split_ifs at within with feed carriage
  · simp at within
  · simp at within
  · exact feed (List.mem_singleton.mp within).symm

end Text

open Text

inductive Slot.RecordedAs (fields : List String) : Slot → List (List Char) → Prop
  | record {values : List Json} {texts : List (List Char)} (full : values.length = fields.length)
      (cells : List.Forall₂ Json.ShownAs values texts) :
      RecordedAs fields (.record fields values) texts

variable {fields : List String} {first second slot : Slot} {texts others : List (List Char)}

theorem append_cons_inj_of_notMem_left {α : Type} {stop : α} {front other back rest : List α}
    (notInFront : stop ∉ front) (notInOther : stop ∉ other) :
    front ++ stop :: back = other ++ stop :: rest ↔ front = other ∧ back = rest := by
  constructor
  · intro same
    rcases List.append_eq_append_iff.mp same with ⟨middle, rfl, ends⟩ | ⟨middle, rfl, ends⟩
    · cases middle <;> simp_all
    · cases middle <;> simp_all
  · rintro ⟨rfl, rfl⟩
    rfl

namespace Block

def fieldLines (fields : List String) (texts : List (List Char)) : List Char :=
  (List.zipWith fieldLine fields texts).flatten

theorem record?_of_shownAs {values : List Json} (cells : List.Forall₂ Json.ShownAs values texts) :
    record? fields values = some ⟨.record fields, fieldLines fields texts⟩ := by
  have lines : (fields.zip values).mapM (fun entry =>
      entry.2.scalarText?.map (fieldLine entry.1)) = some (List.zipWith fieldLine fields texts) := by
    apply mapM_eq_some_of_forall₂
    induction cells generalizing fields with
    | nil => simp
    | cons shown _ ih =>
      cases fields with
      | nil => simp
      | cons field rest => exact .cons (by simp [Json.scalarText?_eq_some_iff.mpr shown]) ih
  unfold record?
  simp only [lines, fieldLines]
  rfl

theorem fieldLines_eq_iff (left : texts.length = fields.length)
    (right : others.length = fields.length) :
    fieldLines fields texts = fieldLines fields others ↔
      texts.map oneLine = others.map oneLine := by
  induction fields generalizing texts others with
  | nil => simp_all
  | cons field rest ih =>
    obtain ⟨text, texts, rfl⟩ := List.exists_cons_of_length_eq_add_one left
    obtain ⟨other, others, rfl⟩ := List.exists_cons_of_length_eq_add_one right
    have later := @ih texts others (by simpa using left) (by simpa using right)
    simp only [fieldLines, List.zipWith_cons_cons, List.flatten_cons, List.map_cons,
      List.cons.injEq] at later ⊢
    rw [← later]
    simp only [fieldLine, List.append_assoc, List.append_cancel_left_eq, List.cons_append,
      List.cons.injEq, List.nil_append, true_and]
    exact append_cons_inj_of_notMem_left (not_mem_oneLine text) (not_mem_oneLine other)

end Block

namespace Slot

theorem RecordedAs.withBreaks (recorded : slot.RecordedAs fields texts) :
    RecordedAs fields
      (.record fields (texts.map fun text => .string (String.ofList (Text.withBreaks text))))
      (texts.map Text.withBreaks) := by
  obtain ⟨full, cells⟩ := recorded
  refine .record ?_ ?_
  · rw [List.length_map, ← cells.length_eq, full]
  · rw [List.forall₂_map_left_iff, List.forall₂_map_right_iff, List.forall₂_same]
    intro text _
    simpa using Json.ShownAs.string (String.ofList (Text.withBreaks text))

end Slot

namespace Outcome

theorem render_compact_of_recordedAs (recorded : slot.RecordedAs fields texts) :
    (single slot).render .compact = String.ofList (Block.fieldLines fields texts) := by
  obtain ⟨full, cells⟩ := recorded
  simp [render, renderCompact?, compactText?, Block.ofSlot?, Block.record?_of_shownAs cells]

theorem render_compact_eq_iff_oneLine (recorded : first.RecordedAs fields texts)
    (alsoRecorded : second.RecordedAs fields others) :
    (single first).render .compact = (single second).render .compact ↔
      texts.map oneLine = others.map oneLine := by
  rw [render_compact_of_recordedAs recorded, render_compact_of_recordedAs alsoRecorded,
    String.ofList_inj]
  obtain ⟨full, cells⟩ := recorded
  obtain ⟨alsoFull, alsoCells⟩ := alsoRecorded
  exact Block.fieldLines_eq_iff (cells.length_eq.symm.trans full)
    (alsoCells.length_eq.symm.trans alsoFull)

/-- Two records over the same fields have the same short form just when their texts agree once line
breaks are written as escapes, so one that holds an escape has the short form of another record. -/
theorem render_compact_record_eq_iff (fields : List String) :
    (∀ first second texts others, Slot.RecordedAs fields first texts →
      Slot.RecordedAs fields second others →
      ((single first).render .compact = (single second).render .compact ↔
        texts.map oneLine = others.map oneLine)
      ∧ ((∀ text ∈ texts ++ others, ¬ HoldsEscape text) →
        (single first).render .compact = (single second).render .compact → texts = others))
    ∧ ∀ slot texts, Slot.RecordedAs fields slot texts → (∃ text ∈ texts, HoldsEscape text) →
      ∃ other others, Slot.RecordedAs fields other others ∧ others ≠ texts
        ∧ (single other).render .compact = (single slot).render .compact := by
  constructor
  · intro first second texts others recorded alsoRecorded
    have agree := render_compact_eq_iff_oneLine recorded alsoRecorded
    refine ⟨agree, fun plain same => ?_⟩
    have back : ∀ kept ⊆ texts ++ others, (kept.map oneLine).map withBreaks = kept := by
      intro kept within
      rw [List.map_map]
      exact (List.map_congr_left fun text member =>
        withBreaks_oneLine (plain text (within member))).trans (List.map_id kept)
    rw [← back texts (by simp), ← back others (by simp), agree.mp same]
  · rintro slot texts recorded ⟨text, member, holds⟩
    refine ⟨_, _, recorded.withBreaks, ?_, ?_⟩
    · intro same
      rw [← same] at member
      obtain ⟨origin, -, rfl⟩ := List.mem_map.mp member
      exact not_holdsEscape_withBreaks origin holds
    · rw [render_compact_eq_iff_oneLine recorded.withBreaks recorded, List.map_map]
      exact List.map_congr_left fun text _ => oneLine_withBreaks text

theorem render_compact_record_not_injective :
    let feed := Slot.record ["note"] [.string "\n"]
    let escape := Slot.record ["note"] [.string "\\n"]
    feed.RecordedAs ["note"] ["\n".toList] ∧ escape.RecordedAs ["note"] ["\\n".toList]
      ∧ "\n".toList ≠ "\\n".toList
      ∧ (single feed).render .compact = (single escape).render .compact := by
  intro feed escape
  have recorded : feed.RecordedAs ["note"] ["\n".toList] :=
    .record rfl (.cons (.string "\n") .nil)
  have alsoRecorded : escape.RecordedAs ["note"] ["\\n".toList] :=
    .record rfl (.cons (.string "\\n") .nil)
  refine ⟨recorded, alsoRecorded, by decide, ?_⟩
  rw [render_compact_eq_iff_oneLine recorded alsoRecorded]
  decide

theorem render_compact_record_eq_iff_lone_backslash :
    let first := Slot.record ["id", "note"] [.number 7, .string "a\nb"]
    let second := Slot.record ["id", "note"] [.number 7, .string "a\\ b"]
    first.RecordedAs ["id", "note"] ["7".toList, "a\nb".toList]
      ∧ second.RecordedAs ["id", "note"] ["7".toList, "a\\ b".toList]
      ∧ (single first).render .compact ≠ (single second).render .compact := by
  intro first second
  have recorded : first.RecordedAs ["id", "note"] ["7".toList, "a\nb".toList] :=
    .record rfl (.cons (.number 7) (.cons (.string "a\nb") .nil))
  have alsoRecorded : second.RecordedAs ["id", "note"] ["7".toList, "a\\ b".toList] :=
    .record rfl (.cons (.number 7) (.cons (.string "a\\ b") .nil))
  refine ⟨recorded, alsoRecorded, fun same => ?_⟩
  obtain ⟨agree, -⟩ := (render_compact_record_eq_iff ["id", "note"]).1 _ _ _ _ recorded alsoRecorded
  exact absurd (agree.mp same) (by decide)

end Outcome

end Inquiry
