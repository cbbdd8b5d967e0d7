/-
  PlanScaffold/Proofs/Text/Ascii.lean
  ===================================
  **The letters A to Z.**

  On the characters below 128 the tables of Unicode are the simple shifts between capital and small
  letters, and the cased characters are the letters.  Only the entries of a table that begin below
  128 matter here (`CharSet.below`, `CaseTable.below`), so that these characters can be looked at
  one by one (`tables_ascii`).  A text of them in title case stays as it is, since no letter becomes
  two (`titleFrom_titleFrom`).
-/
import Mathlib
import PlanScaffold.Proofs.Text.Forms

namespace PlanScaffold

namespace Text

/-! ### The first entries of a table -/

theorem Stretch.first_le_of_contains {s : Stretch} {n : Nat} (hcontains : s.contains n = true) :
    s.first ≤ n :=
  (bounds_of_mem_members (mem_members_of_contains hcontains)).1

/-- The stretches of a set that begin below a code point. -/
def CharSet.below (bound : Nat) (set : CharSet) : CharSet :=
  List.filter (fun s => s.first.blt bound) set

theorem CharSet.has_below {bound : Nat} {c : Char} (hc : c.toNat < bound) (set : CharSet) :
    (below bound set).has c = set.has c := by
  rw [has, below, List.any_filter, has]
  congr 1
  funext s
  cases hcontains : s.contains c.toNat with
  | false => exact Bool.and_false _
  | true =>
    have hfirst := Stretch.first_le_of_contains hcontains
    rw [Bool.and_true, Nat.blt_eq]
    omega

/-- A table with only those of its runs that begin below a code point. -/
def CaseTable.below (bound : Nat) (table : CaseTable) : CaseTable :=
  { table with runs := table.runs.filter fun run => run.source.first.blt bound }

theorem CaseTable.apply_below {bound : Nat} {c : Char} (hc : c.toNat < bound) (table : CaseTable) :
    (table.below bound).apply c = table.apply c := by
  have hruns : (table.below bound).runs.find? (fun run => run.source.contains c.toNat) =
      table.runs.find? fun run => run.source.contains c.toNat := by
    rw [below, List.find?_filter]
    congr 1
    funext run
    cases hcontains : run.source.contains c.toNat with
    | false => simp
    | true =>
      have hfirst := Stretch.first_le_of_contains hcontains
      simp only [and_true, Nat.blt_eq, decide_eq_true_eq]
      omega
  unfold apply image?
  rw [hruns]
  rfl

/-! ### Characters below 128 -/

@[elab_as_elim]
theorem forall_ascii {P : Char → Prop} (hall : ∀ n ∈ List.range 128, P (Char.ofNat n)) {c : Char}
    (hc : c.toNat < 128) : P c := by
  have hproperty := hall c.toNat (List.mem_range.mpr hc)
  rwa [Char.ofNat_toNat] at hproperty

section Ascii

variable {c : Char}

/-- What the entries that begin below 128 say about a character. -/
theorem tables_ascii (hc : c.toNat < 128) :
    (CaseTable.below 128 ⟨lowerRuns, lowerExpansions⟩).apply c = [c.toLower] ∧
    (CaseTable.below 128 ⟨upperRuns, upperExpansions⟩).apply c = [c.toUpper] ∧
    (CharSet.below 128 uppercaseSet).has c = c.isUpper ∧
    (CharSet.below 128 lowercaseSet).has c = c.isLower ∧
    (CharSet.below 128 titlecaseSet).has c = false ∧
    (CharSet.below 128 ignorableSet).has c.toLower = (CharSet.below 128 ignorableSet).has c :=
  forall_ascii (by decide +kernel) hc

theorem lowercase_ascii (hc : c.toNat < 128) : lowercase c = [c.toLower] := by
  obtain ⟨hlower, -⟩ := tables_ascii hc
  rw [lowercase, ← CaseTable.apply_below hc, hlower]

theorem uppercase_ascii (hc : c.toNat < 128) : uppercase c = [c.toUpper] := by
  obtain ⟨-, hupper, -⟩ := tables_ascii hc
  rw [uppercase, ← CaseTable.apply_below hc, hupper]

theorem isUppercase_ascii (hc : c.toNat < 128) : isUppercase c = c.isUpper := by
  obtain ⟨-, -, hupper, -⟩ := tables_ascii hc
  rw [isUppercase, ← CharSet.has_below hc, hupper]

theorem isLowercase_ascii (hc : c.toNat < 128) : isLowercase c = c.isLower := by
  obtain ⟨-, -, -, hlower, -⟩ := tables_ascii hc
  rw [isLowercase, ← CharSet.has_below hc, hlower]

theorem isTitlecase_ascii (hc : c.toNat < 128) : isTitlecase c = false := by
  obtain ⟨-, -, -, -, htitle, -⟩ := tables_ascii hc
  rw [isTitlecase, ← CharSet.has_below hc, htitle]

/-- The characters with a titlecase form of their own, and those in such a form, are further on. -/
theorem not_special_ascii (hc : c.toNat < 128) :
    (c ≠ 'Ǆ' ∧ c ≠ 'ǅ' ∧ c ≠ 'ǆ') ∧ (c ≠ 'Ǉ' ∧ c ≠ 'ǈ' ∧ c ≠ 'ǉ') ∧ (c ≠ 'Ǌ' ∧ c ≠ 'ǋ' ∧ c ≠ 'ǌ') ∧
    (c ≠ 'Ǳ' ∧ c ≠ 'ǲ' ∧ c ≠ 'ǳ') ∧ c ≠ 'ß' := by
  refine ⟨⟨?_, ?_, ?_⟩, ⟨?_, ?_, ?_⟩, ⟨?_, ?_, ?_⟩, ⟨?_, ?_, ?_⟩, ?_⟩ <;>
    (rintro rfl; exact absurd hc (by decide))

theorem titlecase_ascii (hc : c.toNat < 128) : titlecase c = [c.toUpper] := by
  simp [titlecase, not_special_ascii hc, uppercase_ascii hc]

theorem isCased_ascii (hc : c.toNat < 128) : isCased c = c.isAlpha := by
  rw [isCased, isUppercase_ascii hc, isLowercase_ascii hc, isTitlecase_ascii hc, Bool.or_false]
  rfl

theorem continuesWord_ascii (hc : c.toNat < 128) : continuesWord c = c.isAlpha := by
  have hdigraph : latinDigraphs.contains c = false := by
    simp [latinDigraphs, not_special_ascii hc]
  rw [continuesWord, isUppercase_ascii hc, isLowercase_ascii hc, hdigraph, Bool.or_false]
  rfl

/-- The change of case stays below 128, where it touches no blank. -/
theorem shifts_ascii (hc : c.toNat < 128) :
    c.toLower.toNat < 128 ∧ c.toUpper.toNat < 128 ∧ isBlank c.toLower = isBlank c ∧
    (c.toLower = ' ' ↔ c = ' ') :=
  forall_ascii (by decide +kernel) hc

theorem isCaseIgnorable_toLower (hc : c.toNat < 128) :
    isCaseIgnorable c.toLower = isCaseIgnorable c := by
  obtain ⟨-, -, -, -, -, hignorable⟩ := tables_ascii hc
  obtain ⟨hsmall, -⟩ := shifts_ascii hc
  rw [isCaseIgnorable, isCaseIgnorable, ← CharSet.has_below hsmall, ← CharSet.has_below hc,
    hignorable]

end Ascii

/-! ### Texts below 128 -/

theorem titleForm_ascii {c : Char} (hc : c.toNat < 128) (inWord : Bool) :
    ∃ d, titleForm inWord c = [d] ∧ titleForm inWord d = [d] ∧
      continuesWord d = continuesWord c := by
  obtain ⟨hlower, hupper, -, -⟩ := shifts_ascii hc
  cases inWord with
  | true =>
    refine ⟨c.toLower, lowercase_ascii hc, ?_, ?_⟩
    · rw [titleForm, if_pos rfl, lowercase_ascii hlower, Char.toLower_toLower_eq_toLower]
    · rw [continuesWord_ascii hlower, continuesWord_ascii hc, Char.isAlpha_toLower_eq_isAlpha]
  | false =>
    refine ⟨c.toUpper, titlecase_ascii hc, ?_, ?_⟩
    · rw [titleForm, if_neg Bool.false_ne_true, titlecase_ascii hupper,
        Char.toUpper_toUpper_eq_toUpper]
    · rw [continuesWord_ascii hupper, continuesWord_ascii hc, Char.isAlpha_toUpper_eq_isAlpha]

theorem titleFrom_titleFrom {text : List Char} (htext : ∀ c ∈ text, c.toNat < 128) (inWord : Bool) :
    titleFrom inWord (titleFrom inWord text) = titleFrom inWord text := by
  induction text generalizing inWord with
  | nil => rfl
  | cons c rest ih =>
    obtain ⟨d, hform, hsame, hword⟩ := titleForm_ascii (htext c List.mem_cons_self) inWord
    have hrest := ih (fun e he => htext e (List.mem_cons_of_mem c he)) (continuesWord c)
    rw [titleFrom_cons, hform, List.singleton_append, titleFrom_cons, hsame, hword, hrest,
      List.singleton_append]

end Text

end PlanScaffold
