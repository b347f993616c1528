import Inquiry.Proofs.Source.LineIndex

set_option autoImplicit false

namespace Inquiry

theorem eq_nil_of_byteLength_eq_zero {text : List Char} (empty : byteLength text = 0) :
    text = [] := by
  cases text with
  | nil => rfl
  | cons char rest =>
    have wide := char.utf8Size_pos
    rw [byteLength_cons] at empty
    omega

theorem exists_append_of_byteLength_le {first second : List Char} {after more : List Char}
    (same : first ++ after = second ++ more) (le : byteLength first ≤ byteLength second) :
    ∃ inner, second = first ++ inner := by
  rcases List.append_eq_append_iff.mp same with ⟨inner, longer, _⟩ | ⟨inner, shorter, _⟩
  · exact ⟨inner, longer⟩
  · rw [shorter, byteLength_append] at le
    have empty : inner = [] := eq_nil_of_byteLength_eq_zero (by omega)
    exact ⟨[], by simp [shorter, empty]⟩

theorem Position.offset_after (position : Position) (text : List Char) :
    (position.after text).offset = position.offset + byteLength text := by
  induction text generalizing position with
  | nil => rfl
  | cons char rest ih =>
    have offset : (position.advance char).offset = position.offset + char.utf8Size := by
      by_cases feed : char = '\n' <;> simp [advance, feed, utf8Size_lineFeed]
    rw [after_cons, ih, offset, byteLength_cons, Nat.add_assoc]

namespace Span

def textIn (span : Span) (source : String) : Option (List Char) :=
  sliceBytes source.toList span.start.offset span.stop.offset

structure LiesIn (span : Span) (source : String) : Prop where
  ordered : span.start.offset ≤ span.stop.offset
  inside : span.stop.offset ≤ Inquiry.byteLength source.toList
  boundaries : (span.textIn source).isSome
  start : (LineIndex.ofSource source).positionAt span.start.offset = span.start
  stop : (LineIndex.ofSource source).positionAt span.stop.offset = span.stop

structure ExactIn (span : Span) (source : String) : Prop where
  nonempty : span.start.offset < span.stop.offset
  inside : span.stop.offset ≤ Inquiry.byteLength source.toList
  boundaries : (span.textIn source).isSome
  start : (LineIndex.ofSource source).positionAt span.start.offset = span.start
  stop : (LineIndex.ofSource source).positionAt span.stop.offset = span.stop

def Precedes (first second : Span) : Prop := first.stop.offset ≤ second.start.offset

def Within (inner outer : Span) : Prop :=
  outer.start.offset ≤ inner.start.offset ∧ inner.stop.offset ≤ outer.stop.offset

def Encloses (span : Span) (source : String) (text : List Char) : Prop :=
  ∃ before after, source.toList = before ++ text ++ after
    ∧ span = ⟨Position.origin.after before, Position.origin.after (before ++ text)⟩

namespace Encloses

variable {span : Span} {source : String} {text : List Char}

theorem textIn_eq (encloses : span.Encloses source text) : span.textIn source = some text := by
  obtain ⟨before, after, split, rfl⟩ := encloses
  simp only [textIn, split, Position.origin_after]
  exact sliceBytes_append before text after

theorem liesIn (encloses : span.Encloses source text) : span.LiesIn source := by
  have boundaries : (span.textIn source).isSome := by simp [encloses.textIn_eq]
  obtain ⟨before, after, split, rfl⟩ := encloses
  constructor
  case ordered =>
    simp only [Position.origin_after, byteLength_append]
    omega
  case inside => simp [split, Position.offset_after, Position.origin]
  case boundaries => exact boundaries
  case start =>
    have found := LineIndex.positionAt_byteLength (split.trans (List.append_assoc _ _ _))
    simpa only [Position.origin_after] using found
  case stop =>
    have found := LineIndex.positionAt_byteLength split
    simpa only [Position.origin_after] using found

theorem exactIn (encloses : span.Encloses source text) (nonempty : text ≠ []) :
    span.ExactIn source := by
  have lies := encloses.liesIn
  have wide : Inquiry.byteLength text ≠ 0 := fun empty =>
    nonempty (eq_nil_of_byteLength_eq_zero empty)
  refine ⟨?_, lies.inside, lies.boundaries, lies.start, lies.stop⟩
  obtain ⟨before, after, -, rfl⟩ := encloses
  simp only [Position.origin_after, byteLength_append]
  omega

theorem through {last : Span} {lastText : List Char} (first : span.Encloses source text)
    (second : last.Encloses source lastText) (precedes : span.Precedes last) :
    ∃ inner, (span.through last).Encloses source (text ++ inner ++ lastText) := by
  obtain ⟨before, after, split, rfl⟩ := first
  obtain ⟨lastBefore, lastAfter, lastSplit, rfl⟩ := second
  have le : Inquiry.byteLength (before ++ text) ≤ Inquiry.byteLength lastBefore := by
    simpa only [Precedes, Position.origin_after] using precedes
  have same : (before ++ text) ++ after = lastBefore ++ (lastText ++ lastAfter) := by
    rw [← split, lastSplit, List.append_assoc]
  obtain ⟨inner, rfl⟩ := exists_append_of_byteLength_le same le
  exact ⟨inner, before, lastAfter, by simp [lastSplit], by simp [Span.through]⟩

end Encloses

end Span

end Inquiry
