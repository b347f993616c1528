import Inquiry.Text.Count

set_option autoImplicit false

namespace Inquiry.Text

def WritesCount (text : String) (count : Nat) : Prop :=
  ∃ digits, (text.toList = digits ∨ text.toList = '+' :: digits) ∧ digits ≠ []
    ∧ (∀ digit ∈ digits, digit.isDigit = true) ∧ Nat.ofDigitChars 10 digits 0 = count
    ∧ count < countBound

-- The induction is on the digits still to be read, so it needs any value read before them.
theorem foldlM_digits {digits : List Char} (all : ∀ digit ∈ digits, digit.isDigit = true)
    (value : Nat) :
    digits.foldlM
        (fun value digit => if digit.isDigit then some (value * 10 + (digit.toNat - 48)) else none)
        value =
      some (Nat.ofDigitChars 10 digits value) := by
  induction digits generalizing value with
  | nil => rfl
  | cons digit rest ih =>
    obtain ⟨first, later⟩ := List.forall_mem_cons.mp all
    rw [List.foldlM_cons, if_pos first, Nat.ofDigitChars_cons, Nat.mul_comm 10]
    exact ih later _

theorem isDigit_of_foldlM {digits : List Char} {value result : Nat}
    (ran : digits.foldlM
        (fun value digit => if digit.isDigit then some (value * 10 + (digit.toNat - 48)) else none)
        value = some result) :
    ∀ digit ∈ digits, digit.isDigit = true := by
  induction digits generalizing value with
  | nil => exact List.forall_mem_nil _
  | cons digit rest ih =>
    rw [List.foldlM_cons] at ran
    cases first : digit.isDigit with
    | false => simp [first] at ran
    | true =>
      rw [first] at ran
      exact List.forall_mem_cons.mpr ⟨first, ih ran⟩

theorem decimalValue?_eq_some_iff {digits : List Char} {count : Nat} :
    decimalValue? digits = some count ↔
      (∀ digit ∈ digits, digit.isDigit = true) ∧ Nat.ofDigitChars 10 digits 0 = count := by
  constructor
  · intro ran
    have all := isDigit_of_foldlM ran
    rw [decimalValue?, foldlM_digits all] at ran
    exact ⟨all, Option.some.inj ran⟩
  · rintro ⟨all, rfl⟩
    exact foldlM_digits all 0

theorem withoutPlus_of_digits {digits : List Char}
    (all : ∀ digit ∈ digits, digit.isDigit = true) : withoutPlus digits = digits := by
  unfold withoutPlus
  split
  next => exact absurd (all '+' List.mem_cons_self) (by decide)
  next => rfl

theorem eq_of_withoutPlus (chars : List Char) :
    chars = withoutPlus chars ∨ chars = '+' :: withoutPlus chars := by
  unfold withoutPlus
  split <;> simp

theorem count?_eq_some_iff {text : String} {count : Nat} :
    count? text = some count ↔ WritesCount text count := by
  constructor
  · intro read
    unfold count? at read
    split at read
    next => cases read
    next nonempty =>
      obtain ⟨value, bounded⟩ := Option.filter_eq_some_iff.mp read
      obtain ⟨all, value⟩ := decimalValue?_eq_some_iff.mp value
      exact ⟨_, eq_of_withoutPlus text.toList, nonempty, all, value, of_decide_eq_true bounded⟩
  · rintro ⟨digits, written, nonempty, all, value, bounded⟩
    have unsigned : withoutPlus text.toList = digits := by
      rcases written with same | same
      · rw [same, withoutPlus_of_digits all]
      · rw [same]
        rfl
    unfold count?
    rw [unsigned]
    split
    next => contradiction
    next =>
      rw [decimalValue?_eq_some_iff.mpr ⟨all, value⟩]
      exact Option.filter_eq_some_iff.mpr ⟨rfl, decide_eq_true bounded⟩

theorem count?_toString {count : Nat} (bounded : count < countBound) :
    count? (toString count) = some count := by
  refine count?_eq_some_iff.mpr ⟨Nat.toDigits 10 count, .inl ?_, Nat.toDigits_ne_nil, ?_,
    Nat.ofDigitChars_ten_toDigits, bounded⟩
  · rw [Nat.toString_eq_ofList_toDigits, String.toList_ofList]
  · exact fun digit member => Nat.isDigit_of_mem_toDigits (by decide) (by decide) member

end Inquiry.Text
