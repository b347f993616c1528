import Mathlib.Data.List.DropRight
import Inquiry.Source.Position

set_option autoImplicit false

namespace Inquiry

theorem utf8Size_lineFeed : '\n'.utf8Size = 1 := rfl

namespace Position

def lastLine (text : List Char) : List Char := text.rtakeWhile (· != '\n')

theorem lastLine_concat (text : List Char) (char : Char) :
    lastLine (text ++ [char]) = if char = '\n' then [] else lastLine text ++ [char] := by
  by_cases feed : char = '\n' <;> simp [lastLine, feed]

theorem origin_after (text : List Char) :
    origin.after text = ⟨text.count '\n', (lastLine text).length, byteLength text⟩ := by
  induction text using List.reverseRecOn with
  | nil => rfl
  | append_singleton text char ih =>
    by_cases feed : char = '\n'
    · simp [ih, advance, lastLine_concat, feed, utf8Size_lineFeed]
    · simp [ih, advance, lastLine_concat, feed]

theorem after_replicate_blank (position : Position) (count : Nat) :
    position.after (List.replicate count ' ') =
      ⟨position.line, position.column + count, position.offset + count⟩ := by
  have blank : ' '.utf8Size = 1 := rfl
  induction count generalizing position with
  | zero => rfl
  | succ count ih =>
    rw [List.replicate_succ, after_cons, ih]
    simp [advance, blank]
    omega

def behind (text : List Char) (position : Position) : Position :=
  ⟨position.line + text.count '\n',
    if position.line = 0 then position.column + (lastLine text).length + 1 else position.column,
    position.offset + byteLength text + 1⟩

theorem behind_origin (text : List Char) : origin.behind text = (origin.after text).advance ';' := by
  have semicolon : ';'.utf8Size = 1 := rfl
  rw [origin_after]
  simp [behind, origin, advance, semicolon]

theorem behind_advance (text : List Char) (position : Position) (char : Char) :
    (position.advance char).behind text = (position.behind text).advance char := by
  by_cases feed : char = '\n'
  · simp [behind, advance, feed]
    omega
  · by_cases first : position.line = 0 <;> simp [behind, advance, feed, first] <;> omega

theorem behind_after (text : List Char) (position : Position) (more : List Char) :
    (position.after more).behind text = (position.behind text).after more := by
  induction more generalizing position with
  | nil => rfl
  | cons char rest ih => rw [after_cons, after_cons, ih, behind_advance]

end Position

end Inquiry
