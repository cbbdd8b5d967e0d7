/-
  PlanScaffold/Proofs/Text/Spaces.lean
  ====================================
  **Casing a text is casing its words.**

  No character has an empty form, and blanks are their own forms.  Neither casing looks past a
  space: for title case a space ends the word before it, and the search for a cased letter around
  a sigma stops at a space, which is neither cased nor to be ignored.  Hence a text may be cut at
  its spaces before its case is changed, or afterwards (`Casing.onText_intercalate`).
-/
import PlanScaffold.Proofs.Text.Blanks
import PlanScaffold.Proofs.Text.WordEnds

namespace PlanScaffold

namespace Text

/-! ### Characters -/

theorem isBlank_space : isBlank ' ' = true := by decide

theorem lowercase_space : lowercase ' ' = [' '] := (keepsBlanks_lowercase ' ').blank isBlank_space

theorem titlecase_space : titlecase ' ' = [' '] := (keepsBlanks_titlecase ' ').blank isBlank_space

/-! ### Texts -/

theorem titleFrom_append_space (inWord : Bool) (word rest : List Char) :
    titleFrom inWord (word ++ ' ' :: rest) = titleFrom inWord word ++ ' ' :: titleFrom false rest := by
  have hends : continuesWord ' ' = false := by decide
  have hspace : ∀ inWord, titleFrom inWord (' ' :: rest) = ' ' :: titleFrom false rest := by
    intro inWord
    cases inWord <;> simp [titleFrom, hends, lowercase_space, titlecase_space]
  rw [titleFrom_append, hspace]

set_option maxRecDepth 4000 in
theorem isCaseIgnorable_space : isCaseIgnorable ' ' = false := by decide

set_option maxRecDepth 4000 in
theorem isCased_space : isCased ' ' = false := by decide

theorem meetsCased_append_space (word rest : List Char) :
    meetsCased (word ++ ' ' :: rest) = meetsCased word := by
  induction word with
  | nil =>
    simp [meetsCased, isCaseIgnorable_space, isCased_space]
  | cons c word ih =>
    by_cases hignored : isCaseIgnorable c = true
    · simpa [meetsCased, List.dropWhile_cons, hignored] using ih
    · simp [meetsCased, hignored]

/-- What stands before a space has no part in the case of what follows it. -/
theorem lowerFrom_behind_space (before old text : List Char) :
    lowerFrom (before ++ ' ' :: old) text = lowerFrom before text := by
  induction text generalizing before with
  | nil => rfl
  | cons c text ih =>
    have hrest := ih (c :: before)
    rw [List.cons_append] at hrest
    simp only [lowerFrom, lowerWithin, meetsCased_append_space, hrest]

theorem lowerFrom_append_space (before word rest : List Char) :
    lowerFrom before (word ++ ' ' :: rest) = lowerFrom before word ++ ' ' :: lowerFrom [] rest := by
  induction word generalizing before with
  | nil =>
    have hrest := lowerFrom_behind_space [] before rest
    rw [List.nil_append] at hrest
    simp [lowerFrom, lowerWithin, lowercase_space, hrest]
  | cons c word ih =>
    simp only [List.cons_append, lowerFrom, lowerWithin, meetsCased_append_space, ih,
      List.append_assoc]

theorem titleFrom_eq_nil_iff {inWord : Bool} {text : List Char} :
    titleFrom inWord text = [] ↔ text = [] := by
  cases text with
  | nil => exact iff_of_true rfl rfl
  | cons c text =>
    have hform : (if inWord then lowercase c else titlecase c) ≠ [] := by
      cases inWord
      · exact titlecase_ne_nil c
      · exact lowercase_ne_nil c
    simp [titleFrom, hform]

theorem lowerFrom_eq_nil_iff {before text : List Char} :
    lowerFrom before text = [] ↔ text = [] := by
  cases text with
  | nil => exact iff_of_true rfl rfl
  | cons c text => simp [lowerFrom, lowerWithin_ne_nil]

end Text

/-! ### Both casings -/

namespace Casing

theorem onText_eq_nil_iff {casing : Casing} {text : List Char} :
    casing.onText text = [] ↔ text = [] := by
  cases casing with
  | title => exact Text.titleFrom_eq_nil_iff
  | lower => exact Text.lowerFrom_eq_nil_iff

theorem space_mem_onText_iff {casing : Casing} {text : List Char} :
    ' ' ∈ casing.onText text ↔ ' ' ∈ text :=
  mem_onText_iff Text.isBlank_space

theorem onText_append_space (casing : Casing) (word rest : List Char) :
    casing.onText (word ++ ' ' :: rest) = casing.onText word ++ ' ' :: casing.onText rest := by
  cases casing with
  | title => exact Text.titleFrom_append_space false word rest
  | lower => exact Text.lowerFrom_append_space [] word rest

/-- A text of words in between spaces gets its case word by word. -/
theorem onText_intercalate (casing : Casing) (words : List (List Char)) :
    casing.onText ([' '].intercalate words) = [' '].intercalate (words.map casing.onText) := by
  induction words with
  | nil => exact onText_eq_nil_iff.mpr rfl
  | cons word rest ih =>
    cases rest with
    | nil => simp
    | cons next rest =>
      rw [List.map_cons] at ih
      rw [List.intercalate_cons_cons, List.append_assoc, List.singleton_append,
        onText_append_space, ih, List.map_cons, List.map_cons, List.intercalate_cons_cons,
        List.append_assoc, List.singleton_append]

end Casing

end PlanScaffold
