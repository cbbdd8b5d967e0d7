/-
  PlanScaffold/Proofs/Answers.lean
  ================================
  **Trimmed answers, and which of them hold a name.**

  A text is `Trimmed` when neither of its ends is a blank.  Trimming gives such a text
  (`trimmed_trim`) and leaves it alone (`Trimmed.trim_eq`).  Of blanks around a text it keeps none,
  whatever is between them (`trim_append_blanks`), so a text has only one trimmed part.
-/
import Mathlib.Data.List.TakeWhile
import PlanScaffold.Answers

namespace PlanScaffold

open Text

theorem trim_eq_nil_iff {text : List Char} : trim text = [] ↔ ∀ c ∈ text, isBlank c = true := by
  unfold trim trimEnd trimStart
  rw [List.reverse_eq_nil_iff, List.dropWhile_eq_nil_iff]
  constructor
  · intro htrimmed c hc
    -- what is left at the start begins with a character that is not blank
    cases hrest : text.dropWhile isBlank with
    | nil => exact List.dropWhile_eq_nil_iff.mp hrest c hc
    | cons first rest =>
      have hfirst : isBlank first = true := by
        apply htrimmed
        rw [hrest]
        exact List.mem_reverse.mpr List.mem_cons_self
      have hnot := List.head?_dropWhile_not isBlank text
      rw [hrest] at hnot
      simp [hfirst] at hnot
  · intro hblank c hc
    have hmem : c ∈ text.dropWhile isBlank := List.mem_reverse.mp hc
    exact hblank c ((List.dropWhile_sublist isBlank).subset hmem)

theorem trimEnd_prefix (text : List Char) : trimEnd text <+: text := by
  rw [← List.reverse_suffix]
  unfold trimEnd
  rw [List.reverse_reverse]
  exact List.dropWhile_suffix isBlank

theorem trim_subset (text : List Char) : trim text ⊆ text := by
  have hend := trimEnd_prefix (trimStart text)
  intro c hc
  exact (List.dropWhile_sublist isBlank).subset (hend.subset hc)

theorem isBlank_of_head?_trim {text : List Char} {c : Char} (hfirst : (trim text).head? = some c) :
    isBlank c = false := by
  obtain ⟨rest, hrest⟩ := trimEnd_prefix (trimStart text)
  have hstart : (text.dropWhile isBlank).head? = some c := by
    show (trimStart text).head? = some c
    rw [← hrest, List.head?_append]
    show ((trim text).head?).or rest.head? = some c
    rw [hfirst]
    rfl
  have hnot := List.head?_dropWhile_not isBlank text
  rw [hstart] at hnot
  simpa using hnot

theorem isBlank_of_getLast?_trim {text : List Char} {c : Char}
    (hlast : (trim text).getLast? = some c) : isBlank c = false := by
  unfold trim trimEnd at hlast
  rw [List.getLast?_reverse] at hlast
  have hnot := List.head?_dropWhile_not isBlank (trimStart text).reverse
  rw [hlast] at hnot
  simpa using hnot

/-! ### Trimmed texts -/

/-- A text with no blank at either end. -/
structure Trimmed (text : List Char) : Prop where
  first : ∀ c, text.head? = some c → isBlank c = false
  last : ∀ c, text.getLast? = some c → isBlank c = false

theorem trimmed_trim (text : List Char) : Trimmed (trim text) :=
  ⟨fun _ => isBlank_of_head?_trim, fun _ => isBlank_of_getLast?_trim⟩

theorem dropWhile_isBlank_eq_self {text : List Char}
    (hfirst : ∀ c, text.head? = some c → isBlank c = false) : text.dropWhile isBlank = text := by
  cases text with
  | nil => rfl
  | cons c rest => exact List.dropWhile_cons_of_neg (by simp [hfirst c rfl])

theorem Trimmed.trim_eq {text : List Char} (htext : Trimmed text) : trim text = text := by
  have hstart : trimStart text = text := dropWhile_isBlank_eq_self htext.first
  have hend : text.reverse.dropWhile isBlank = text.reverse := by
    apply dropWhile_isBlank_eq_self
    rw [List.head?_reverse]
    exact htext.last
  rw [trim, hstart, trimEnd, hend, List.reverse_reverse]

theorem trimEnd_append_blanks {after : List Char} (hafter : ∀ c ∈ after, isBlank c = true)
    (text : List Char) : trimEnd (text ++ after) = trimEnd text := by
  have hreverse : ∀ c ∈ after.reverse, isBlank c = true := by
    intro c hc
    exact hafter c (List.mem_reverse.mp hc)
  rw [trimEnd, trimEnd, List.reverse_append, List.dropWhile_append_of_pos hreverse]

/-- Blanks around a text are lost without a trace. -/
theorem trim_append_blanks {before after : List Char} (hbefore : ∀ c ∈ before, isBlank c = true)
    (hafter : ∀ c ∈ after, isBlank c = true) (text : List Char) :
    trim (before ++ (text ++ after)) = trim text := by
  have hstart : trimStart (before ++ (text ++ after)) = trimStart (text ++ after) :=
    List.dropWhile_append_of_pos hbefore
  rw [trim, hstart, trim]
  unfold trimStart
  rw [List.dropWhile_append]
  split
  · next hblank =>
    -- the text is blank itself, and what follows it is lost at the start
    rw [List.isEmpty_iff.mp hblank, List.dropWhile_eq_nil_iff.mpr hafter]
  · exact trimEnd_append_blanks hafter _

/-- A text is its trimmed part with blanks around it. -/
theorem exists_blanks_around_trim (text : List Char) :
    ∃ before after, text = before ++ (trim text ++ after) ∧
      (∀ c ∈ before, isBlank c = true) ∧ ∀ c ∈ after, isBlank c = true := by
  refine ⟨text.takeWhile isBlank, ((trimStart text).reverse.takeWhile isBlank).reverse, ?_, ?_, ?_⟩
  · have hend : trim text ++ ((trimStart text).reverse.takeWhile isBlank).reverse =
        trimStart text := by
      rw [trim, trimEnd, ← List.reverse_append, List.takeWhile_append_dropWhile,
        List.reverse_reverse]
    rw [hend]
    exact List.takeWhile_append_dropWhile.symm
  · intro c hc
    exact List.mem_takeWhile_imp hc
  · intro c hc
    exact List.mem_takeWhile_imp (List.mem_reverse.mp hc)

/-! ### Names -/

/-- An answer holds no name exactly when it is blank. -/
theorem EntityName.ofAnswer?_eq_none_iff {answer : String} :
    ofAnswer? answer = none ↔ ∀ c ∈ answer.toList, isBlank c = true := by
  rw [← trim_eq_nil_iff]
  unfold ofAnswer?
  split
  · next hempty => simp [hempty]
  · next c rest hrest => simp [hrest]

theorem EntityName.exists_ofAnswer?_iff {answer : String} :
    (∃ name, ofAnswer? answer = some name) ↔ ∃ c ∈ answer.toList, isBlank c = false := by
  rw [← Option.isSome_iff_exists, ← not_iff_not]
  simp [ofAnswer?_eq_none_iff]

end PlanScaffold
