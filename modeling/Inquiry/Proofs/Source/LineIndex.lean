import Inquiry.Proofs.Source.Position
import Inquiry.Source.LineIndex

set_option autoImplicit false

namespace Inquiry

theorem splitAtByte_append (before after : List Char) :
    splitAtByte (before ++ after) (byteLength before) = some (before, after) := by
  induction before with
  | nil => cases after <;> rfl
  | cons char rest ih =>
    obtain ⟨size, sameSize⟩ := Nat.exists_eq_succ_of_ne_zero char.utf8Size_pos.ne'
    have offset : byteLength (char :: rest) = size + byteLength rest + 1 := by
      rw [byteLength_cons, sameSize]
      omega
    have remaining : size + byteLength rest + 1 - char.utf8Size = byteLength rest := by omega
    rw [offset, List.cons_append, splitAtByte, if_pos (by omega), remaining, ih]
    rfl

theorem sliceBytes_append (before text after : List Char) :
    sliceBytes (before ++ text ++ after) (byteLength before) (byteLength (before ++ text)) =
      some text := by
  have length : byteLength (before ++ text) - byteLength before = byteLength text := by simp
  rw [sliceBytes, if_pos (by simp), length, List.append_assoc, splitAtByte_append]
  simp [splitAtByte_append]

namespace LineIndex

theorem startsAfter_append (offset : Nat) (before after : List Char) :
    startsAfter offset (before ++ after) =
      startsAfter offset before ++ startsAfter (offset + byteLength before) after := by
  induction before generalizing offset with
  | nil => simp [startsAfter]
  | cons char rest ih => by_cases feed : char = '\n' <;> simp [startsAfter, feed, ih, Nat.add_assoc]

theorem length_startsAfter (offset : Nat) (text : List Char) :
    (startsAfter offset text).length = text.count '\n' := by
  induction text generalizing offset with
  | nil => rfl
  | cons char rest ih => by_cases feed : char = '\n' <;> simp [startsAfter, feed, ih]

theorem bounds_of_mem_startsAfter {offset start : Nat} {text : List Char}
    (member : start ∈ startsAfter offset text) :
    offset < start ∧ start ≤ offset + byteLength text := by
  induction text generalizing offset with
  | nil => simp [startsAfter] at member
  | cons char rest ih =>
    have wide := char.utf8Size_pos
    rw [byteLength_cons]
    have later : start ∈ startsAfter (offset + char.utf8Size) rest →
        offset < start ∧ start ≤ offset + (char.utf8Size + byteLength rest) := by
      intro member
      have := ih member
      omega
    by_cases feed : char = '\n'
    · rw [startsAfter, if_pos feed, List.mem_cons] at member
      rcases member with rfl | member
      · omega
      · exact later member
    · rw [startsAfter, if_neg feed] at member
      exact later member

-- The lines that begin up to an offset are those that the text before it begins, as long as none
-- begins in between.
theorem countP_startsAfter {before after : List Char} {offset : Nat}
    (reached : byteLength before ≤ offset)
    (later : ∀ start ∈ startsAfter (byteLength before) after, offset < start) :
    (startsAfter 0 (before ++ after)).countP (· ≤ offset) = before.count '\n' := by
  have begun : (startsAfter 0 before).countP (· ≤ offset) = before.count '\n' := by
    rw [← length_startsAfter 0 before, List.countP_eq_length]
    intro start member
    have := bounds_of_mem_startsAfter member
    simp only [decide_eq_true_eq]
    omega
  have beyond : (startsAfter (0 + byteLength before) after).countP (· ≤ offset) = 0 := by
    rw [Nat.zero_add, List.countP_eq_zero]
    intro start member
    simpa using later start member
  rw [startsAfter_append, List.countP_append, begun, beyond, Nat.add_zero]

def closedLines (text : List Char) : List Char := text.rdropWhile (· != '\n')

theorem closedLines_append_lastLine (text : List Char) :
    closedLines text ++ Position.lastLine text = text :=
  List.rdropWhile_append_rtakeWhile

theorem byteLength_lastLine (text : List Char) :
    byteLength (closedLines text) + byteLength (Position.lastLine text) = byteLength text := by
  rw [← byteLength_append, closedLines_append_lastLine]

theorem getElem?_startsAfter (before : List Char) :
    (0 :: startsAfter 0 before)[before.count '\n']? = some (byteLength (closedLines before)) := by
  induction before using List.reverseRecOn with
  | nil => rfl
  | append_singleton before char ih =>
    by_cases feed : char = '\n'
    · have length : (startsAfter 0 before).length = before.count '\n' := length_startsAfter 0 before
      simp [startsAfter_append, startsAfter, closedLines, feed, ← length]
    · have same : closedLines (before ++ [char]) = closedLines before :=
        List.rdropWhile_concat_pos _ _ _ (by simpa using feed)
      simpa [startsAfter_append, startsAfter, same, feed] using ih

theorem positionAt_of_reached {source : String} {before after : List Char} {offset : Nat}
    (split : source.toList = before ++ after) (reached : byteLength before ≤ offset)
    (inside : offset ≤ byteLength source.toList)
    (later : ∀ start ∈ startsAfter (byteLength before) after, offset < start) :
    (ofSource source).positionAt offset =
      ⟨before.count '\n',
        ((sliceBytes source.toList (byteLength (closedLines before)) offset).map List.length).getD
          (offset - byteLength (closedLines before)),
        offset⟩ := by
  have clamped : min offset (byteLength source.toList) = offset := Nat.min_eq_left inside
  have line : (0 :: startsAfter 0 source.toList).countP (· ≤ offset) - 1 = before.count '\n' := by
    rw [split, List.countP_cons_of_pos (by simp), countP_startsAfter reached later,
      Nat.add_sub_cancel]
  have start : (0 :: startsAfter 0 source.toList).getD (before.count '\n') 0 =
      byteLength (closedLines before) := by
    have begun : before.count '\n' < (0 :: startsAfter 0 before).length := by
      simp [length_startsAfter]
    rw [split, startsAfter_append, ← List.cons_append, List.getD_eq_getElem?_getD,
      List.getElem?_append_left begun, getElem?_startsAfter, Option.getD_some]
  simp only [positionAt, ofSource, clamped, line, start]
  cases sliceBytes source.toList (byteLength (closedLines before)) offset <;> rfl

theorem positionAt_byteLength {source : String} {before after : List Char}
    (split : source.toList = before ++ after) :
    (ofSource source).positionAt (byteLength before) = Position.origin.after before := by
  have inside : byteLength before ≤ byteLength source.toList := by simp [split]
  have column : sliceBytes source.toList (byteLength (closedLines before)) (byteLength before) =
      some (Position.lastLine before) := by
    have slice := sliceBytes_append (closedLines before) (Position.lastLine before) after
    rwa [closedLines_append_lastLine, ← split] at slice
  rw [positionAt_of_reached split (Nat.le_refl _) inside
    fun start member => (bounds_of_mem_startsAfter member).1, column, Option.map_some,
    Option.getD_some, Position.origin_after]

end LineIndex

end Inquiry
