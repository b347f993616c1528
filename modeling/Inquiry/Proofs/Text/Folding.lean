import Inquiry.Text.Lowercase
import Mathlib.Data.List.Forall2

set_option autoImplicit false

namespace Inquiry.Text

def IsAscii (text : String) : Prop := ∀ char ∈ text.toList, char.toNat < 128

-- Over the characters of the text, not over all characters.
instance (text : String) : Decidable (IsAscii text) :=
  List.decidableBAll (fun char : Char => char.toNat < 128) text.toList

-- No text from outside ASCII lowers to a plain word.
def IsPlain (word : String) : Prop := IsAscii word ∧ 'k' ∉ asciiFolded word

instance (word : String) : Decidable (IsPlain word) :=
  inferInstanceAs (Decidable (IsAscii word ∧ 'k' ∉ asciiFolded word))

def kelvinSign : Char := '\u212a'

@[elab_as_elim]
theorem ascii_cases {P : Char → Prop} (each : ∀ code < 128, P (Char.ofNat code)) {char : Char}
    (ascii : char.toNat < 128) : P char := by
  have holds := each char.toNat ascii
  rwa [Char.ofNat_toNat] at holds

theorem first_of_mem_tail : ∀ run ∈ caseRuns.tail, 128 ≤ run.first := by
  decide +kernel

-- The first run has the letters of ASCII, and the others begin behind it.
theorem lowercase_of_ascii {char : Char} (ascii : char.toNat < 128) :
    lowercase char = [char.toLower] := by
  have letters : caseRuns = ⟨0x41, 0x5a, 1, 0x61⟩ :: caseRuns.tail := rfl
  have none : caseRuns.tail.find? (·.covers char.toNat) = none := by
    refine List.find?_eq_none.mpr fun run member covers => ?_
    simp only [CaseRun.covers, Bool.and_eq_true, decide_eq_true_eq] at covers
    have := first_of_mem_tail run member
    omega
  rw [lowercase, letters, List.find?_cons, none]
  exact ascii_cases (by decide +kernel) ascii

theorem toLower_ascii {char : Char} (ascii : char.toNat < 128) : char.toLower.toNat < 128 :=
  ascii_cases (P := fun char => char.toLower.toNat < 128) (by decide +kernel) ascii

theorem toLower_of_foreign {char : Char} (foreign : 128 ≤ char.toNat) : char.toLower = char := by
  unfold Char.toLower
  split
  next upper =>
    have bound : char.toNat ≤ 'Z'.toNat := upper.2
    exact absurd (Nat.le_trans foreign bound) (by decide)
  next => rfl

theorem CaseRun.covers_iff {run : CaseRun} {code : Nat} :
    run.covers code = true ↔
      run.first ≤ code ∧ code ≤ run.last ∧ (code - run.first) % run.stride = 0 := by
  simp [covers, and_assoc]

theorem isValidChar_lower : ∀ run ∈ caseRuns, ∀ code, run.covers code = true →
    (run.lower code).isValidChar := by
  have bounds : ∀ run ∈ caseRuns, run.lowered + (run.last - run.first) < 0xd800
      ∨ 0xdfff < run.lowered ∧ run.lowered + (run.last - run.first) < 0x110000 := by
    decide +kernel
  intro run member code covers
  obtain ⟨first, last, -⟩ := CaseRun.covers_iff.mp covers
  have bounds := bounds run member
  rw [CaseRun.lower, Nat.isValidChar]
  omega

theorem lowercase_cases (char : Char) :
    char = dottedCapitalI
      ∨ (∃ run ∈ caseRuns, ∃ lower, run.covers char.toNat = true ∧ lowercase char = [lower]
        ∧ lower.toNat = run.lower char.toNat)
      ∨ lowercase char = [char] := by
  unfold lowercase
  split
  next dotted => exact .inl dotted
  next =>
    split
    next run found =>
      have member := List.mem_of_find?_eq_some found
      have covers := List.find?_some found
      refine .inr (.inl ⟨run, member, _, covers, rfl, ?_⟩)
      rw [Char.ofNat, dif_pos (isValidChar_lower run member _ covers)]
      rfl
    next => exact .inr (.inr rfl)

theorem toUpper_of_foreign {char : Char} (foreign : 128 ≤ char.toNat) : char.toUpper = char := by
  unfold Char.toUpper
  split
  next lower =>
    have bound : char.toNat ≤ 'z'.toNat := lower.2
    exact absurd (Nat.le_trans foreign bound) (by decide)
  next => rfl

theorem caseRuns_kinds : ∀ run ∈ caseRuns, run.last < 128
    ∨ (run.last = kelvinSign.toNat ∧ run.first = run.last ∧ run.lowered = 'k'.toNat)
    ∨ 128 ≤ run.lowered := by
  decide +kernel

theorem eq_of_mem_lowercase {char lower : Char} (foreign : 128 ≤ char.toNat)
    (member : lower ∈ lowercase char) (ascii : lower.toNat < 128) :
    (char = kelvinSign ∧ lower = 'k') ∨ char = dottedCapitalI := by
  rcases lowercase_cases char with dotted | ⟨run, inRuns, other, covers, lowers, code⟩ | same
  · exact .inr dotted
  · obtain ⟨first, last, -⟩ := CaseRun.covers_iff.mp covers
    rw [lowers, List.mem_singleton] at member
    subst member
    rw [CaseRun.lower] at code
    rcases caseRuns_kinds run inRuns with inside | ⟨kelvin, single, lowered⟩ | least
    · omega
    · have isKelvin : char.toNat = kelvinSign.toNat := by omega
      have isK : lower.toNat = 'k'.toNat := by omega
      exact .inl ⟨Char.toNat_inj.mp isKelvin, Char.toNat_inj.mp isK⟩
    · omega
  · rw [same, List.mem_singleton] at member
    subst member
    omega

/-- No code that the run lowers to is lowered by the other: they lie apart, or each second code is
lowered to one that the other run leaves out. -/
def CaseRun.misses (run other : CaseRun) : Bool :=
  !(run.lowered.ble other.last && other.first.ble (run.lower run.last))
    || ((run.stride == 2 || run.first == run.last) && other.stride == 2
      && (run.lowered + other.first) % 2 == 1)

theorem CaseRun.misses_iff {run other : CaseRun} :
    run.misses other = true ↔ (run.lowered ≤ other.last → run.lower run.last < other.first)
      ∨ ((run.stride = 2 ∨ run.first = run.last) ∧ other.stride = 2)
        ∧ (run.lowered + other.first) % 2 = 1 := by
  simp only [misses, Bool.or_eq_true, Bool.not_eq_true', ← Bool.not_eq_true, Bool.and_eq_true,
    Nat.ble_eq, not_and, Nat.not_le, beq_iff_eq]

theorem CaseRun.not_covers_of_misses {run other : CaseRun} (misses : run.misses other = true)
    {code : Nat} (covers : run.covers code = true) :
    other.covers (run.lower code) = false := by
  rw [Bool.eq_false_iff]
  intro again
  rw [covers_iff] at covers again
  obtain ⟨first, last, step⟩ := covers
  obtain ⟨otherFirst, otherLast, otherStep⟩ := again
  rw [misses_iff] at misses
  unfold lower at *
  rcases misses with apart | ⟨⟨stride | single, otherStride⟩, parity⟩
  · omega
  · rw [stride] at step
    rw [otherStride] at otherStep
    omega
  · rw [otherStride] at otherStep
    omega

-- Over all pairs of runs, so without the instances that a proposition would need.
theorem misses_of_mem : ∀ run ∈ caseRuns, ∀ other ∈ caseRuns, run.misses other = true := by
  have all : (caseRuns.all fun run => caseRuns.all fun other => run.misses other) = true := by
    decide +kernel
  simpa only [List.all_eq_true] using all

theorem misses_dotted : ∀ run ∈ caseRuns,
    run.misses ⟨dottedCapitalI.toNat, dottedCapitalI.toNat, 1, 0⟩ = true := by
  decide +kernel

theorem lowercase_combiningDot : lowercase '\u0307' = ['\u0307'] := by
  have none : caseRuns.find? (·.covers 0x307) = none :=
    List.find?_eq_none.mpr (by decide +kernel)
  have code : '\u0307'.toNat = 0x307 := rfl
  rw [lowercase, code, none]
  rfl

theorem lowercase_of_mem_lowercase {char lower : Char} (member : lower ∈ lowercase char) :
    lowercase lower = [lower] := by
  rcases lowercase_cases char with rfl | ⟨run, inRuns, other, covers, lowers, code⟩ | same
  · have forms : lower = 'i' ∨ lower = '\u0307' := by simpa [lowercase] using member
    rcases forms with rfl | rfl
    · exact lowercase_of_ascii (by decide)
    · exact lowercase_combiningDot
  · rw [lowers, List.mem_singleton] at member
    subst member
    have notDotted : lower ≠ dottedCapitalI := by
      have uncovered := CaseRun.not_covers_of_misses (misses_dotted run inRuns) covers
      rintro rfl
      rw [← code] at uncovered
      exact absurd uncovered (by decide)
    have none : caseRuns.find? (·.covers lower.toNat) = none := by
      refine List.find?_eq_none.mpr fun next inNext => ?_
      rw [code, CaseRun.not_covers_of_misses (misses_of_mem run inRuns next inNext) covers]
      decide
    rw [lowercase, if_neg notDotted, none]
  · rw [same, List.mem_singleton] at member
    rw [member, same]

theorem folded_of_ascii {text : String} (ascii : IsAscii text) :
    folded text = asciiFolded text := by
  unfold folded asciiFolded
  unfold IsAscii at ascii
  generalize text.toList = chars at ascii ⊢
  induction chars with
  | nil => rfl
  | cons char rest ih =>
    obtain ⟨first, later⟩ := List.forall_mem_cons.mp ascii
    rw [List.flatMap_cons, lowercase_of_ascii first, ih later]
    rfl

theorem flatMap_lowercase_of_lowered {chars : List Char}
    (lowered : ∀ char ∈ chars, lowercase char = [char]) : chars.flatMap lowercase = chars := by
  rw [List.flatMap_congr lowered]
  exact List.flatMap_singleton' chars

theorem folded_folded (text : String) : folded (String.ofList (folded text)) = folded text := by
  rw [folded, String.toList_ofList]
  refine flatMap_lowercase_of_lowered fun lower member => ?_
  obtain ⟨char, -, within⟩ := List.mem_flatMap.mp member
  exact lowercase_of_mem_lowercase within

def SameLetter (char other : Char) : Prop :=
  other = char ∨ other = char.toUpper ∨ other = char.toLower

inductive Recased (text : String) : String → Prop where
  | lowercase : Recased text (String.ofList (folded text))
  | letters {other : String} (same : List.Forall₂ SameLetter text.toList other.toList) :
      Recased text other

theorem Recased.refl (text : String) : Recased text text :=
  .letters (List.forall₂_same.mpr fun _ _ => .inl rfl)

theorem lowercase_eq_of_sameLetter {char other : Char} (same : SameLetter char other) :
    lowercase other = lowercase char := by
  by_cases ascii : char.toNat < 128
  · have upper : char.toUpper.toNat < 128 ∧ char.toUpper.toLower = char.toLower := by
      exact ascii_cases (by decide +kernel) ascii
    have lower : char.toLower.toLower = char.toLower := by
      exact ascii_cases (by decide +kernel) ascii
    rcases same with rfl | rfl | rfl
    · rfl
    · rw [lowercase_of_ascii upper.1, lowercase_of_ascii ascii, upper.2]
    · rw [lowercase_of_ascii (toLower_ascii ascii), lowercase_of_ascii ascii, lower]
  · have foreign := Nat.le_of_not_lt ascii
    rw [SameLetter, toLower_of_foreign foreign, toUpper_of_foreign foreign] at same
    obtain rfl : other = char := by simpa using same
    rfl

theorem Recased.folded_eq {text other : String} (recased : Recased text other) :
    folded other = folded text := by
  cases recased with
  | lowercase => exact folded_folded text
  | letters same =>
    unfold folded
    generalize text.toList = chars at same
    generalize other.toList = others at same
    induction same with
    | nil => rfl
    | cons first _ ih =>
      rw [List.flatMap_cons, List.flatMap_cons, lowercase_eq_of_sameLetter first, ih]

theorem equalIgnoringCase_of_ascii {text other : String} (ascii : IsAscii text)
    (otherAscii : IsAscii other) :
    equalIgnoringCase text other = equalIgnoringAsciiCase text other := by
  rw [equalIgnoringCase, equalIgnoringAsciiCase, folded_of_ascii ascii, folded_of_ascii otherAscii]

theorem exists_mem_lowercase (char : Char) : ∃ lower, lower ∈ lowercase char := by
  unfold lowercase
  split
  · exact ⟨'i', List.mem_cons_self⟩
  · split <;> exact ⟨_, List.mem_singleton.mpr rfl⟩

theorem isAscii_of_folded {text : String}
    (lowered : ∀ lower ∈ folded text, lower.toNat < 128 ∧ lower ≠ 'k') : IsAscii text := by
  intro char member
  refine Nat.lt_of_not_le fun foreign => ?_
  have inFolded : ∀ lower ∈ lowercase char, lower ∈ folded text :=
    fun lower inLower => List.mem_flatMap.mpr ⟨char, member, inLower⟩
  obtain ⟨lower, inLower⟩ := exists_mem_lowercase char
  obtain ⟨ascii, notK⟩ := lowered lower (inFolded lower inLower)
  rcases eq_of_mem_lowercase foreign inLower ascii with ⟨-, isK⟩ | rfl
  · exact notK isK
  · -- The mark that the dotted capital I leaves is not ASCII.
    have mark : '\u0307' ∈ lowercase dottedCapitalI := by decide
    exact absurd (lowered _ (inFolded _ mark)).1 (by decide)

theorem isAscii_of_asciiFolded {text : String}
    (lowered : ∀ lower ∈ asciiFolded text, lower.toNat < 128) : IsAscii text := by
  intro char member
  refine Nat.lt_of_not_le fun foreign => ?_
  have bound := lowered char.toLower (List.mem_map_of_mem member)
  rw [toLower_of_foreign foreign] at bound
  omega

theorem equalIgnoringCase_eq_ascii {word : String} (plain : IsPlain word) (text : String) :
    equalIgnoringCase word text = equalIgnoringAsciiCase word text := by
  obtain ⟨ascii, noK⟩ := plain
  have lowered : ∀ lower ∈ asciiFolded word, lower.toNat < 128 := by
    intro lower member
    obtain ⟨char, inWord, rfl⟩ := List.mem_map.mp member
    exact toLower_ascii (ascii char inWord)
  rw [Bool.eq_iff_iff, equalIgnoringCase_iff, equalIgnoringAsciiCase_iff, folded_of_ascii ascii]
  constructor
  next =>
    intro same
    have textAscii : IsAscii text := by
      apply isAscii_of_folded
      rw [← same]
      exact fun lower member => ⟨lowered lower member, ne_of_mem_of_not_mem member noK⟩
    rw [same, folded_of_ascii textAscii]
  next =>
    intro same
    have textAscii : IsAscii text := by
      apply isAscii_of_asciiFolded
      rwa [← same]
    rw [same, folded_of_ascii textAscii]

example : equalIgnoringCase "k" "\u212a" = true ∧ equalIgnoringAsciiCase "k" "\u212a" = false := by
  decide

end Inquiry.Text
