import Inquiry.Proofs.Source.Lines
import Inquiry.Proofs.Source.Span

set_option autoImplicit false

namespace Inquiry

namespace Position

def NotAfter (first second : Position) : Prop :=
  first.line < second.line ∨ first.line = second.line ∧ first.column ≤ second.column

instance (first second : Position) : Decidable (first.NotAfter second) :=
  inferInstanceAs (Decidable (_ ∨ _))

-- Of two texts that begin alike, the shorter one ends on an earlier line or on the same.
theorem notAfter_of_columns {before inner : List Char} {column other offset otherOffset : Nat}
    (columns : '\n' ∉ inner → column ≤ other) :
    NotAfter ⟨before.count '\n', column, offset⟩
      ⟨(before ++ inner).count '\n', other, otherOffset⟩ := by
  rw [NotAfter, List.count_append]
  by_cases feed : '\n' ∈ inner
  · have more : 0 < inner.count '\n' := List.count_pos_iff.mpr feed
    exact .inl (Nat.lt_add_of_pos_right more)
  · exact .inr ⟨by rw [List.count_eq_zero_of_not_mem feed]; rfl, columns feed⟩

end Position

theorem length_le_byteLength (text : List Char) : text.length ≤ byteLength text := by
  induction text with
  | nil => exact Nat.le_refl 0
  | cons char rest ih =>
    have wide := char.utf8Size_pos
    rw [List.length_cons, byteLength_cons]
    omega

structure Cuts (text : List Char) (offset : Nat) (before : List Char) (char : Char)
    (after : List Char) : Prop where
  split : text = before ++ char :: after
  lower : byteLength before < offset
  upper : offset < byteLength before + char.utf8Size

theorem exists_place (text : List Char) (offset : Nat) :
    (∃ before after, text = before ++ after ∧ byteLength before = min offset (byteLength text))
      ∨ ∃ before char after, Cuts text offset before char after := by
  induction text generalizing offset with
  | nil => exact .inl ⟨[], [], rfl, (Nat.min_zero offset).symm⟩
  | cons char rest ih =>
    by_cases first : offset = 0
    · exact .inl ⟨[], char :: rest, rfl, by rw [first, Nat.zero_min]; rfl⟩
    by_cases cut : offset < char.utf8Size
    · exact .inr ⟨[], char, rest, rfl, Nat.pos_of_ne_zero first, by simpa using cut⟩
    rcases ih (offset - char.utf8Size) with ⟨before, after, rfl, same⟩ |
      ⟨before, other, after, rfl, lower, upper⟩
    · exact .inl ⟨char :: before, after, rfl, by simp only [byteLength_cons]; omega⟩
    · refine .inr ⟨char :: before, other, after, rfl, ?_, ?_⟩ <;> rw [byteLength_cons] <;> omega

namespace Cuts

variable {text before after : List Char} {char : Char} {offset : Nat}

theorem splitAtByte_eq_none (cuts : Cuts text offset before char after) :
    splitAtByte text offset = none := by
  obtain ⟨rfl, lower, upper⟩ := cuts
  induction before generalizing offset with
  | nil =>
    obtain ⟨offset, rfl⟩ := Nat.exists_eq_succ_of_ne_zero (Nat.ne_zero_of_lt lower)
    rw [byteLength_nil] at upper
    rw [List.nil_append, splitAtByte, if_neg (by omega)]
  | cons first rest ih =>
    rw [byteLength_cons] at lower upper
    obtain ⟨offset, rfl⟩ := Nat.exists_eq_succ_of_ne_zero (Nat.ne_zero_of_lt lower)
    rw [List.cons_append, splitAtByte, if_pos (by omega), ih (by omega) (by omega), Option.map_none]

theorem ne_lineFeed (cuts : Cuts text offset before char after) : char ≠ '\n' := by
  rintro rfl
  have narrow := utf8Size_lineFeed
  have := cuts.lower
  have := cuts.upper
  omega

theorem sliceBytes_eq_none (cuts : Cuts text offset before char after) :
    sliceBytes text (byteLength (LineIndex.closedLines before)) offset = none := by
  have length := LineIndex.byteLength_lastLine before
  have lower := cuts.lower
  have upper := cuts.upper
  have line : Cuts (Position.lastLine before ++ char :: after)
      (offset - byteLength (LineIndex.closedLines before)) (Position.lastLine before) char after :=
    ⟨rfl, by omega, by omega⟩
  have split : text =
      LineIndex.closedLines before ++ (Position.lastLine before ++ char :: after) := by
    rw [← List.append_assoc, LineIndex.closedLines_append_lastLine, cuts.split]
  rw [sliceBytes, if_pos (by omega), split, splitAtByte_append]
  simp only [Option.bind_eq_bind, Option.bind_some, line.splitAtByte_eq_none, Option.bind_none]

theorem lt_of_mem_startsAfter (cuts : Cuts text offset before char after) {start : Nat}
    (member : start ∈ LineIndex.startsAfter (byteLength before) (char :: after)) :
    offset < start := by
  rw [LineIndex.startsAfter, if_neg cuts.ne_lineFeed] at member
  have := (LineIndex.bounds_of_mem_startsAfter member).1
  have := cuts.upper
  omega

theorem lt_byteLength (cuts : Cuts text offset before char after) : offset < byteLength text := by
  have := cuts.upper
  rw [cuts.split, byteLength_append, byteLength_cons]
  omega

theorem positionAt {source : String} (cuts : Cuts source.toList offset before char after) :
    (LineIndex.ofSource source).positionAt offset =
      ⟨before.count '\n', offset - byteLength (LineIndex.closedLines before), offset⟩ := by
  rw [LineIndex.positionAt_of_reached cuts.split (Nat.le_of_lt cuts.lower)
    (Nat.le_of_lt cuts.lt_byteLength) fun start => cuts.lt_of_mem_startsAfter,
    cuts.sliceBytes_eq_none, Option.map_none, Option.getD_none]

theorem exists_append {first rest : List Char} (cuts : Cuts text offset before char after)
    (split : text = first ++ rest) (reached : byteLength first ≤ offset) :
    ∃ inner, before = first ++ inner := by
  have upper := cuts.upper
  rcases List.append_eq_append_iff.mp (split.symm.trans cuts.split) with
    ⟨inner, whole, -⟩ | ⟨inner, longer, same⟩
  · exact ⟨inner, whole⟩
  · cases inner with
    | nil => exact ⟨[], by rw [longer, List.append_nil, List.append_nil]⟩
    | cons other more =>
      obtain ⟨rfl, -⟩ := List.cons.inj same
      rw [longer, byteLength_append, byteLength_cons] at reached
      omega

theorem exists_behind {second rest : List Char} (cuts : Cuts text offset before char after)
    (split : text = second ++ rest) (passed : offset ≤ byteLength second) :
    ∃ inner, second = before ++ char :: inner := by
  have lower := cuts.lower
  rcases List.append_eq_append_iff.mp (split.symm.trans cuts.split) with
    ⟨inner, longer, -⟩ | ⟨inner, whole, same⟩
  · rw [longer, byteLength_append] at lower
    omega
  · cases inner with
    | nil =>
      rw [whole, List.append_nil] at passed
      omega
    | cons other more =>
      obtain ⟨rfl, -⟩ := List.cons.inj same
      exact ⟨more, whole⟩

end Cuts

namespace LineIndex

theorem closedLines_append {inner : List Char} (unbroken : '\n' ∉ inner) (before : List Char) :
    closedLines (before ++ inner) = closedLines before := by
  have whole := closedLines_append_lastLine (before ++ inner)
  rw [Position.lastLine_append unbroken, ← List.append_assoc] at whole
  have shorter := List.append_cancel_right whole
  conv_rhs at shorter => rw [← closedLines_append_lastLine before]
  exact List.append_cancel_right shorter

variable {source : String} {first second : Nat}

theorem positionAt_between {before after : List Char} {offset : Nat}
    (split : source.toList = before ++ after)
    (place : byteLength before = min offset (byteLength source.toList)) :
    (ofSource source).positionAt offset =
      ⟨before.count '\n', (Position.lastLine before).length, byteLength before⟩ := by
  rw [← positionAt_min, ← place, positionAt_byteLength split, Position.origin_after]

theorem notAfter_of_between {before after : List Char} (split : source.toList = before ++ after)
    (place : byteLength before = min first (byteLength source.toList)) (ordered : first ≤ second) :
    ((ofSource source).positionAt first).NotAfter ((ofSource source).positionAt second) := by
  rw [positionAt_between split place]
  rcases exists_place source.toList second with ⟨other, rest, whole, there⟩ |
    ⟨other, char, rest, cuts⟩
  case inl =>
    obtain ⟨inner, rfl⟩ := exists_append_of_byteLength_le (split.symm.trans whole) (by omega)
    rw [positionAt_between whole there]
    refine Position.notAfter_of_columns fun unbroken => ?_
    rw [Position.lastLine_append unbroken, List.length_append]
    exact Nat.le_add_right _ _
  case inr =>
    obtain ⟨inner, rfl⟩ := cuts.exists_append split (by omega)
    rw [cuts.positionAt]
    refine Position.notAfter_of_columns fun unbroken => ?_
    rw [closedLines_append unbroken]
    have line := byteLength_lastLine before
    have characters := length_le_byteLength (Position.lastLine before)
    omega

theorem notAfter_of_cuts {before after otherBefore otherAfter : List Char} {char other : Char}
    (cuts : Cuts source.toList first before char after)
    (alsoCuts : Cuts source.toList second otherBefore other otherAfter) (ordered : first ≤ second) :
    ((ofSource source).positionAt first).NotAfter ((ofSource source).positionAt second) := by
  have lower := cuts.lower
  obtain ⟨inner, rfl⟩ := alsoCuts.exists_append cuts.split (by omega)
  rw [cuts.positionAt, alsoCuts.positionAt]
  refine Position.notAfter_of_columns fun unbroken => ?_
  rw [closedLines_append unbroken]
  omega

end LineIndex

/-- The first offset lies within a character and the second between characters further on in the
same line, and the line has more bytes up to the first than characters up to the second. -/
inductive Overtakes (text : List Char) (first second : Nat) : Prop where
  | within {before line inner after : List Char} {char : Char}
      (cuts : Cuts text first (before ++ line) char (inner ++ after))
      (opened : ∀ last ∈ before.getLast?, last = '\n') (unbroken : '\n' ∉ line ++ inner)
      (between : byteLength (before ++ (line ++ char :: inner)) = min second (byteLength text))
      (more : (line ++ char :: inner).length < first - byteLength before) :
      Overtakes text first second

namespace LineIndex

variable {source : String} {first second : Nat}

theorem offset_positionAt (source : String) (offset : Nat) :
    ((ofSource source).positionAt offset).offset = min offset (byteLength source.toList) := rfl

theorem lastLine_eq_nil {text : List Char} (opened : ∀ char ∈ text.getLast?, char = '\n') :
    Position.lastLine text = [] := by
  have whole := closedLines_append_lastLine text
  rw [closedLines_eq_self opened] at whole
  exact List.append_right_eq_self.mp whole

theorem overtaken {before line inner after : List Char} {char : Char}
    (cuts : Cuts source.toList first (before ++ line) char (inner ++ after))
    (opened : ∀ last ∈ before.getLast?, last = '\n') (unbroken : '\n' ∉ line ++ inner)
    (between : byteLength (before ++ (line ++ char :: inner)) =
      min second (byteLength source.toList)) :
    (ofSource source).positionAt first =
        ⟨before.count '\n', first - byteLength before, first⟩
      ∧ (ofSource source).positionAt second =
        ⟨before.count '\n', (line ++ char :: inner).length,
          byteLength (before ++ (line ++ char :: inner))⟩ := by
  have one : '\n' ∉ line := fun member => unbroken (List.mem_append_left _ member)
  have whole : '\n' ∉ line ++ char :: inner := by
    simpa [cuts.ne_lineFeed.symm] using unbroken
  have split : source.toList = before ++ (line ++ char :: inner) ++ after := by simp [cuts.split]
  constructor
  · rw [cuts.positionAt, closedLines_append one, closedLines_eq_self opened, List.count_append,
      List.count_eq_zero_of_not_mem one, Nat.add_zero]
  · rw [positionAt_between split between, Position.lastLine_append whole, lastLine_eq_nil opened,
      List.nil_append, List.count_append, List.count_eq_zero_of_not_mem whole, Nat.add_zero]

theorem overtakes_of_cuts {before after : List Char} {char : Char}
    (cuts : Cuts source.toList first before char after) (ordered : first ≤ second)
    {stop rest : List Char} (split : source.toList = stop ++ rest)
    (between : byteLength stop = min second (byteLength source.toList))
    (behind : ¬ ((ofSource source).positionAt first).NotAfter
      ((ofSource source).positionAt second)) :
    Overtakes source.toList first second := by
  have inside := cuts.lt_byteLength
  obtain ⟨inner, rfl⟩ := cuts.exists_behind split (by omega)
  have columns : ¬ ('\n' ∉ char :: inner → first - byteLength (closedLines before) ≤
      (Position.lastLine (before ++ char :: inner)).length) := by
    rw [positionAt_between split between, cuts.positionAt] at behind
    exact fun columns => behind (Position.notAfter_of_columns columns)
  obtain ⟨unbroken, more⟩ := Classical.not_imp.mp columns
  rw [Position.lastLine_append unbroken, Nat.not_le] at more
  have line := closedLines_append_lastLine before
  have cutsLine : Cuts source.toList first (closedLines before ++ Position.lastLine before) char
      (inner ++ rest) := by
    rw [line]
    exact ⟨by simp [split], cuts.lower, cuts.upper⟩
  have together : '\n' ∉ Position.lastLine before ++ inner := by
    have apart := Position.unbroken_lastLine before
    simp_all
  exact .within cutsLine (closedLines_opened before) together
    (by rw [← List.append_assoc, line, between]) more

-- Of the four ways for the offsets to lie, only one can bring the positions out of order.
theorem not_notAfter_iff_overtakes (ordered : first ≤ second) :
    ¬ ((ofSource source).positionAt first).NotAfter ((ofSource source).positionAt second) ↔
      Overtakes source.toList first second := by
  constructor
  · intro behind
    rcases exists_place source.toList first with ⟨before, after, split, place⟩ |
      ⟨before, char, after, cuts⟩
    · exact absurd (notAfter_of_between split place ordered) behind
    · rcases exists_place source.toList second with ⟨stop, rest, split, place⟩ |
        ⟨stop, other, rest, alsoCuts⟩
      · exact overtakes_of_cuts cuts ordered split place behind
      · exact absurd (notAfter_of_cuts cuts alsoCuts ordered) behind
  · rintro ⟨cuts, opened, unbroken, between, more⟩
    obtain ⟨start, stop⟩ := overtaken cuts opened unbroken between
    rw [start, stop, Position.NotAfter]
    simp only
    omega

theorem line_le (ordered : first ≤ second) :
    ((ofSource source).positionAt first).line ≤ ((ofSource source).positionAt second).line := by
  by_cases notAfter :
    ((ofSource source).positionAt first).NotAfter ((ofSource source).positionAt second)
  · rcases notAfter with earlier | ⟨same, -⟩
    · exact Nat.le_of_lt earlier
    · exact Nat.le_of_eq same
  · obtain ⟨cuts, opened, unbroken, between, -⟩ := (not_notAfter_iff_overtakes ordered).mp notAfter
    obtain ⟨start, stop⟩ := overtaken cuts opened unbroken between
    rw [start, stop]

/-- Positions come in the order of their offsets unless the first offset overtakes the second, which
it does only from within a character. -/
theorem positionAt_in_order_iff (source : String) {first second : Nat} (ordered : first ≤ second) :
    let start := (ofSource source).positionAt first
    let stop := (ofSource source).positionAt second
    start.line ≤ stop.line ∧ start.offset ≤ stop.offset
    ∧ (start.NotAfter stop ↔ ¬ Overtakes source.toList first second)
    ∧ (source.utf8ByteSize ≤ first ∨ (⟨first⟩ : String.Pos.Raw).IsValid source →
      start.NotAfter stop) := by
  intro start stop
  refine ⟨line_le ordered, ?_, ?_, fun place => ?_⟩
  · rw [offset_positionAt, offset_positionAt]
    omega
  · rw [← not_notAfter_iff_overtakes ordered, Classical.not_not]
  · obtain ⟨before, after, split, length⟩ := exists_split_of_isValid place
    have characters : source.toList = before.toList ++ after.toList := by simp [split]
    exact notAfter_of_between characters length ordered

theorem positionAt_not_in_order :
    let index := ofSource "éé"
    index.positionAt 3 = ⟨0, 3, 3⟩ ∧ index.positionAt 4 = ⟨0, 2, 4⟩
      ∧ ¬ (index.positionAt 3).NotAfter (index.positionAt 4) := by
  decide +kernel

theorem positionAt_in_order_iff_cut :
    let source := "é\nééa"
    let index := ofSource source
    6 ≤ 7 ∧ 6 ≤ 8 ∧ 5 ≤ 6 ∧ Overtakes source.toList 6 7 ∧ ¬ Overtakes source.toList 6 8
      ∧ (index.positionAt 6).line ≤ (index.positionAt 7).line
      ∧ ¬ (index.positionAt 6).NotAfter (index.positionAt 7)
      ∧ (index.positionAt 6).NotAfter (index.positionAt 8)
      ∧ (index.positionAt 5).NotAfter (index.positionAt 6) := by
  intro source index
  have cuts : Cuts source.toList 6 (['é', '\n'] ++ ['é']) 'é' ([] ++ ['a']) :=
    ⟨by decide +kernel, by decide +kernel, by decide +kernel⟩
  have overtakes : Overtakes source.toList 6 7 :=
    .within cuts (by simp) (by decide) (by decide +kernel) (by decide +kernel)
  have boundary : (⟨5⟩ : String.Pos.Raw).IsValid source := by
    rw [← String.Pos.Raw.isValid_eq_true_iff]
    decide +kernel
  obtain ⟨lines, -, back, -⟩ := positionAt_in_order_iff source (show 6 ≤ 7 by decide)
  obtain ⟨-, -, onward, -⟩ := positionAt_in_order_iff source (show 6 ≤ 8 by decide)
  obtain ⟨-, -, -, between⟩ := positionAt_in_order_iff source (show 5 ≤ 6 by decide)
  have far : (index.positionAt 6).NotAfter (index.positionAt 8) := by decide +kernel
  exact ⟨by decide, by decide, by decide, overtakes, onward.mp far, lines,
    fun order => back.mp order overtakes, far, between (.inr boundary)⟩

end LineIndex

end Inquiry
