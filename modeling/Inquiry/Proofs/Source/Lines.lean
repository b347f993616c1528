import Inquiry.Proofs.Token.Bytes
import Inquiry.Proofs.Source.LineIndex

set_option autoImplicit false

namespace Inquiry

-- Follows the lines: each but the last one ends with a line feed.
@[elab_as_elim]
theorem line_induction {motive : List Char → Prop} (last : ∀ line, '\n' ∉ line → motive line)
    (line : ∀ line rest, '\n' ∉ line → motive rest → motive (line ++ '\n' :: rest))
    (text : List Char) : motive text := by
  induction size : text.length using Nat.strongRecOn generalizing text with
  | ind size ih =>
    by_cases feed : '\n' ∈ text
    · obtain ⟨first, rest, rfl, unbroken⟩ := List.eq_append_cons_of_mem feed
      rw [List.length_append, List.length_cons] at size
      exact line first rest unbroken (ih rest.length (by omega) rest rfl)
    · exact last text feed

theorem length_splitOn_lineFeed (text : List Char) :
    (text.splitOn '\n').length = text.count '\n' + 1 := by
  induction text using line_induction with
  | last line unbroken =>
    rw [List.splitOn_eq_singleton unbroken, List.count_eq_zero_of_not_mem unbroken,
      List.length_singleton]
  | line first rest unbroken ih =>
    rw [List.splitOn_append_cons_self_of_not_mem unbroken, List.length_cons, ih, List.count_append,
      List.count_cons_self, List.count_eq_zero_of_not_mem unbroken, Nat.zero_add]

structure IsLine (text before line after : List Char) : Prop where
  split : text = before ++ line ++ after
  opened : ∀ char ∈ before.getLast?, char = '\n'
  unbroken : '\n' ∉ line
  closed : ∀ char ∈ after.head?, char = '\n'

theorem exists_isLine {text line : List Char} {number : Nat}
    (found : (text.splitOn '\n')[number]? = some line) :
    ∃ before after, IsLine text before line after ∧ before.count '\n' = number := by
  induction text using line_induction generalizing number with
  | last whole unbroken =>
    rw [List.splitOn_eq_singleton unbroken] at found
    cases number with
    | zero =>
      cases found
      exact ⟨[], [], ⟨by simp, by simp, unbroken, by simp⟩, rfl⟩
    | succ number => cases found
  | line first rest unbroken ih =>
    rw [List.splitOn_append_cons_self_of_not_mem unbroken] at found
    cases number with
    | zero =>
      cases found
      exact ⟨[], '\n' :: rest, ⟨by simp, by simp, unbroken, by simp⟩, rfl⟩
    | succ number =>
      obtain ⟨before, after, ⟨rfl, opened, whole, closed⟩, rfl⟩ := ih found
      refine ⟨first ++ '\n' :: before, after, ⟨by simp, ?_, whole, closed⟩, ?_⟩
      · cases before with
        | nil => simp
        | cons char before => simpa [List.getLast?_append, List.getLast?_cons_cons] using opened
      · rw [List.count_append, List.count_cons_self, List.count_eq_zero_of_not_mem unbroken,
          Nat.zero_add]

theorem Position.lastLine_append {text : List Char} (unbroken : '\n' ∉ text) (before : List Char) :
    lastLine (before ++ text) = lastLine before ++ text := by
  induction text using List.reverseRecOn with
  | nil => simp
  | append_singleton text char ih =>
    have other : char ≠ '\n' := fun same => unbroken (by simp [same])
    rw [← List.append_assoc, lastLine_concat, if_neg other, ih (by simp_all), List.append_assoc]

theorem Position.unbroken_lastLine (text : List Char) : '\n' ∉ lastLine text := by
  intro member
  simpa using List.mem_rtakeWhile_imp member

namespace LineIndex

theorem closedLines_eq_self {text : List Char} (opened : ∀ char ∈ text.getLast?, char = '\n') :
    closedLines text = text := by
  rw [closedLines, List.rdropWhile_eq_self_iff]
  intro nonempty
  simp [opened _ (List.getLast?_eq_some_getLast nonempty)]

theorem closedLines_opened (text : List Char) :
    ∀ char ∈ (closedLines text).getLast?, char = '\n' := by
  intro char last
  obtain ⟨nonempty, rfl⟩ := List.mem_getLast?_eq_getLast last
  simpa [closedLines] using List.rdropWhile_last_not (· != '\n') text nonempty

theorem withoutReturn_concat (text : List Char) : withoutReturn (text ++ ['\r']) = text := by
  simp [withoutReturn]

theorem withoutReturn_of_ne {text : List Char} (plain : text.getLast? ≠ some '\r') :
    withoutReturn text = text := if_neg plain

theorem withoutReturn_of_not_mem {text : List Char} (plain : '\r' ∉ text) :
    withoutReturn text = text :=
  withoutReturn_of_ne fun last => plain (List.mem_of_getLast? last)

end LineIndex

open LineIndex

theorem count_closedLines (text : List Char) : (closedLines text).count '\n' = text.count '\n' := by
  have whole := congrArg (List.count '\n') (closedLines_append_lastLine text)
  rwa [List.count_append, List.count_eq_zero_of_not_mem (Position.unbroken_lastLine text)] at whole

theorem isLine_around {text before after : List Char} (split : text = before ++ after) :
    IsLine text (closedLines before)
      (Position.lastLine before ++ after.takeWhile (· != '\n')) (after.dropWhile (· != '\n')) where
  split := by
    rw [← List.append_assoc, closedLines_append_lastLine, List.append_assoc,
      List.takeWhile_append_dropWhile, split]
  opened := closedLines_opened before
  unbroken := by
    intro member
    rcases List.mem_append.mp member with earlier | later
    · exact Position.unbroken_lastLine before earlier
    · simpa using List.mem_takeWhile_imp later
  closed := by
    intro char first
    have stopped := List.head?_dropWhile_not (· != '\n') after
    rw [Option.mem_def.mp first] at stopped
    simpa using stopped

namespace IsLine

variable {text before line after : List Char}

theorem lineStart (isLine : IsLine text before line after) :
    (0 :: startsAfter 0 text)[before.count '\n']? = some (byteLength before) := by
  have inside : before.count '\n' < (0 :: startsAfter 0 before).length := by
    simp [length_startsAfter]
  rw [isLine.split, List.append_assoc, startsAfter_append, ← List.cons_append,
    List.getElem?_append_left inside, getElem?_startsAfter, closedLines_eq_self isLine.opened]

theorem nextStart (isLine : IsLine text before line after) :
    (0 :: startsAfter 0 text)[before.count '\n' + 1]? =
      after.head?.map fun _ => byteLength (before ++ line) + 1 := by
  have lines : (before ++ line).count '\n' = before.count '\n' := by
    rw [List.count_append, List.count_eq_zero_of_not_mem isLine.unbroken, Nat.add_zero]
  have length : (startsAfter 0 (before ++ line)).length = before.count '\n' := by
    rw [length_startsAfter, lines]
  rw [List.getElem?_cons_succ, isLine.split, startsAfter_append, ← length,
    List.getElem?_append_right (Nat.le_refl _), Nat.sub_self]
  cases after with
  | nil => rfl
  | cons char rest =>
    obtain rfl : char = '\n' := isLine.closed char rfl
    simp [startsAfter, utf8Size_lineFeed]

theorem lineText?_eq {source : String} (isLine : IsLine source.toList before line after) :
    (ofSource source).lineText? (before.count '\n') = some (withoutReturn line) := by
  have cut : sliceBytes source.toList (byteLength before) (byteLength (before ++ line)) =
      some line := isLine.split ▸ sliceBytes_append before line after
  have split := isLine.split
  have next := isLine.nextStart
  simp only [lineText?, ofSource, isLine.lineStart, Option.bind_eq_bind, Option.bind_some]
  -- The line feed behind the line is no part of it.
  cases after with
  | nil =>
    rw [List.append_nil] at split
    rw [split] at next cut ⊢
    simp only [next, List.head?_nil, Option.map_none, cut, Option.bind_some, Option.pure_def]
  | cons char rest =>
    simp only [next, List.head?_cons, Option.map_some, Nat.add_sub_cancel, cut, Option.bind_some,
      Option.pure_def]

end IsLine

namespace LineIndex

theorem lineCount_ofSource (source : String) :
    (ofSource source).lineCount = source.toList.count '\n' + 1 := by
  rw [lineCount, ofSource, List.length_cons, length_startsAfter]

theorem lineText?_ofSource (source : String) (line : Nat) :
    (ofSource source).lineText? line = (source.toList.splitOn '\n')[line]?.map withoutReturn := by
  cases found : (source.toList.splitOn '\n')[line]? with
  | some text =>
    obtain ⟨before, after, isLine, rfl⟩ := exists_isLine found
    exact isLine.lineText?_eq
  | none =>
    have beyond : (ofSource source).lineStarts[line]? = none := by
      rw [List.getElem?_eq_none_iff, length_splitOn_lineFeed] at found
      rw [List.getElem?_eq_none_iff]
      exact (lineCount_ofSource source).trans_le found
    rw [lineText?, beyond]
    rfl

theorem positionAt_min (source : String) (offset : Nat) :
    (ofSource source).positionAt (min offset (byteLength source.toList)) =
      (ofSource source).positionAt offset := by
  have same : min (min offset (byteLength source.toList)) (byteLength source.toList) =
      min offset (byteLength source.toList) := by omega
  simp only [positionAt, ofSource, same]
  rfl

end LineIndex

theorem byteLength_toList (text : String) : byteLength text.toList = text.utf8ByteSize := by
  rw [← utf8Len_eq, ← String.utf8ByteSize_ofList, String.ofList_toList]

theorem exists_split_of_isValid {source : String} {offset : Nat}
    (place : source.utf8ByteSize ≤ offset ∨ (⟨offset⟩ : String.Pos.Raw).IsValid source) :
    ∃ before after, source = before ++ after
      ∧ byteLength before.toList = min offset (byteLength source.toList) := by
  simp only [byteLength_toList]
  rcases place with beyond | valid
  · exact ⟨source, "", by simp, by omega⟩
  · have inside : offset ≤ source.utf8ByteSize := valid.le_rawEndPos
    obtain ⟨before, after, rfl, same⟩ := String.Pos.Raw.isValid_iff_exists_append.mp valid
    have length : offset = before.utf8ByteSize := congrArg String.Pos.Raw.byteIdx same
    exact ⟨before, after, rfl, by omega⟩

/-- Looking up an offset counts the lines and characters before it, and looking up a line gives a
piece of the text between line feeds, without a carriage return at its end. -/
theorem LineIndex.looks_up_as_counted (source : String) :
    (∀ offset, source.utf8ByteSize ≤ offset ∨ (⟨offset⟩ : String.Pos.Raw).IsValid source →
      ∃ before after, source = before ++ after
        ∧ before.utf8ByteSize = min offset source.utf8ByteSize
        ∧ (ofSource source).positionAt offset = ⟨before.toList.count '\n',
          (before.toList.rtakeWhile (· != '\n')).length, min offset source.utf8ByteSize⟩)
    ∧ (ofSource source).lineCount = source.toList.count '\n' + 1
    ∧ (∀ line, (ofSource source).lineText? line = none ↔ (ofSource source).lineCount ≤ line)
    ∧ ∀ line piece, (source.toList.splitOn '\n')[line]? = some piece →
      ∃ text, (ofSource source).lineText? line = some text
        ∧ (piece = text ++ ['\r'] ∨ piece = text ∧ text.getLast? ≠ some '\r') := by
  refine ⟨fun offset place => ?_, lineCount_ofSource source, fun line => ?_, ?_⟩
  · obtain ⟨before, after, split, length⟩ := exists_split_of_isValid place
    have characters : source.toList = before.toList ++ after.toList := by simp [split]
    have found := positionAt_byteLength characters
    rw [length, positionAt_min, Position.origin_after, length] at found
    simp only [byteLength_toList] at length found
    exact ⟨before, after, split, length, found⟩
  · rw [lineText?_ofSource, Option.map_eq_none_iff, List.getElem?_eq_none_iff,
      length_splitOn_lineFeed, lineCount_ofSource]
  · intro line piece found
    refine ⟨withoutReturn piece, by rw [lineText?_ofSource, found, Option.map_some], ?_⟩
    by_cases ends : piece.getLast? = some '\r'
    · obtain ⟨text, rfl⟩ := List.getLast?_eq_some_iff.mp ends
      exact .inl (by rw [withoutReturn_concat])
    · rw [withoutReturn_of_ne ends]
      exact .inr ⟨rfl, ends⟩

theorem LineIndex.looks_up_as_counted_lines :
    let source := "a\r\néb\nc\rd"
    let index := ofSource source
    (∃ before after, source = before ++ after ∧ before.utf8ByteSize = min 5 source.utf8ByteSize
        ∧ index.positionAt 5 = ⟨before.toList.count '\n',
          (before.toList.rtakeWhile (· != '\n')).length, min 5 source.utf8ByteSize⟩)
      ∧ index.positionAt 5 = ⟨1, 1, 5⟩
      ∧ (∃ before after, source = before ++ after ∧ before.utf8ByteSize = min 99 source.utf8ByteSize
        ∧ index.positionAt 99 = ⟨before.toList.count '\n',
          (before.toList.rtakeWhile (· != '\n')).length, min 99 source.utf8ByteSize⟩)
      ∧ index.positionAt 99 = ⟨2, 3, 10⟩
      ∧ (∃ text, index.lineText? 0 = some text ∧ (['a', '\r'] = text ++ ['\r']
        ∨ ['a', '\r'] = text ∧ text.getLast? ≠ some '\r'))
      ∧ index.lineText? 2 = some ['c', '\r', 'd'] ∧ index.lineText? 3 = none := by
  intro source index
  obtain ⟨positions, count, absent, pieces⟩ := looks_up_as_counted source
  have inner : (⟨5⟩ : String.Pos.Raw).IsValid source := by
    rw [← String.Pos.Raw.isValid_eq_true_iff]
    decide +kernel
  exact ⟨positions 5 (.inr inner), by decide +kernel, positions 99 (.inl (by decide +kernel)),
    by decide +kernel, pieces 0 _ (by decide +kernel), by decide +kernel,
    (absent 3).mpr (by rw [count]; decide +kernel)⟩

end Inquiry
