/-
  PlanScaffold/Proofs/Text/Blanks.lean
  ====================================
  **Letter case leaves blanks alone.**

  A blank has no other form in either case, and no form of another character has a blank in it.  So a
  text has the same blanks before and after its case is changed, line feeds and spaces among them.

  The tables hold thousands of characters.  They need not be looked at one by one, since no run
  of them comes near a blank: as intervals, runs and stretches of blanks do not overlap
  (`Stretch.apart`).
-/
import Mathlib.Tactic.SplitIfs
import PlanScaffold.Answers

namespace PlanScaffold

namespace Text

/-! ### Stretches -/

/-- The greatest member of a stretch that has any. -/
def Stretch.last (s : Stretch) : Nat := s.first + s.stride * (s.count - 1)

/-- All of one stretch lies above or below all of the other. -/
def Stretch.apart (s t : Stretch) : Bool := s.last.blt t.first || t.last.blt s.first

theorem Stretch.bounds_of_mem_members {s : Stretch} {n : Nat} (hmem : n ∈ s.members) :
    s.first ≤ n ∧ n ≤ s.last := by
  obtain ⟨k, hk, rfl⟩ := List.mem_map.mp hmem
  have hcount : k ≤ s.count - 1 := Nat.le_sub_one_of_lt (List.mem_range.mp hk)
  refine ⟨Nat.le_add_right _ _, ?_⟩
  exact Nat.add_le_add_left (Nat.mul_le_mul_left s.stride hcount) s.first

theorem Stretch.contains_eq_false_of_apart {s t : Stretch} (hapart : s.apart t = true) {n : Nat}
    (hmem : n ∈ s.members) : t.contains n = false := by
  rw [← Bool.not_eq_true]
  intro hcontains
  obtain ⟨hfirst, hlast⟩ := bounds_of_mem_members hmem
  obtain ⟨hfirst', hlast'⟩ := bounds_of_mem_members (mem_members_of_contains hcontains)
  rw [apart, Bool.or_eq_true, Nat.blt_eq, Nat.blt_eq] at hapart
  omega

/-! ### Tables -/

/-- Whether a code point is that of a blank. -/
def isBlankCode (code : Nat) : Bool := List.any blanks fun s => s.contains code

theorem isBlank_ofNat {code : Nat} (hcode : isBlankCode code = false) :
    isBlank (Char.ofNat code) = false := by
  by_cases hvalid : code.isValidChar
  · rw [Char.ofNat, dif_pos hvalid]
    exact hcode
  · rw [Char.ofNat, dif_neg hvalid]
    decide

/-- The code points to which a run maps. -/
def CaseRun.target (run : CaseRun) : Stretch := { run.source with first := run.image }

/-- No code point of the table is that of a blank. -/
structure CaseTable.AvoidsBlanks (table : CaseTable) : Prop where
  runs : ∀ run ∈ table.runs, ∀ s ∈ blanks,
    run.source.apart s = true ∧ run.target.apart s = true
  expansions : ∀ entry ∈ table.expansions,
    isBlankCode entry.1 = false ∧ ∀ code ∈ entry.2, isBlankCode code = false

theorem isBlankCode_of_apart {s : Stretch} (hapart : ∀ t ∈ blanks, s.apart t = true) {n : Nat}
    (hmem : n ∈ s.members) : isBlankCode n = false := by
  rw [isBlankCode, List.any_eq_false]
  intro t ht
  rw [Stretch.contains_eq_false_of_apart (hapart t ht) hmem]
  exact Bool.false_ne_true

theorem CaseRun.image_mem_target {run : CaseRun} {n : Nat} (hmem : n ∈ run.source.members) :
    run.image + (n - run.source.first) ∈ run.target.members := by
  obtain ⟨k, hk, rfl⟩ := List.mem_map.mp hmem
  refine List.mem_map.mpr ⟨k, hk, ?_⟩
  rw [Nat.add_sub_cancel_left]
  rfl

theorem CaseTable.AvoidsBlanks.of_mem_images {table : CaseTable} (htable : table.AvoidsBlanks)
    {entry : Nat × List Nat} (hentry : entry ∈ table.images) :
    isBlankCode entry.1 = false ∧ ∀ code ∈ entry.2, isBlankCode code = false := by
  rcases List.mem_append.mp hentry with hmoved | hexpansion
  · obtain ⟨run, hrun, hmember⟩ := List.mem_flatMap.mp hmoved
    obtain ⟨n, hn, rfl⟩ := List.mem_map.mp hmember
    have hruns := htable.runs run hrun
    refine ⟨isBlankCode_of_apart (fun s hs => (hruns s hs).1) hn, ?_⟩
    intro code hcode
    rw [List.mem_singleton.mp hcode]
    exact isBlankCode_of_apart (fun s hs => (hruns s hs).2) (CaseRun.image_mem_target hn)
  · exact htable.expansions entry hexpansion

theorem CaseTable.eq_or_mem_images (table : CaseTable) (c : Char) :
    table.apply c = [c] ∨
      ∃ codes, (c.toNat, codes) ∈ table.images ∧ table.apply c = codes.map Char.ofNat := by
  unfold apply
  cases himage : table.image? c.toNat with
  | none => exact .inl rfl
  | some codes => exact .inr ⟨codes, mem_images himage, rfl⟩

/-- A form of a character in which blanks are kept: a blank has no other form than itself, and any
    other character has no blank in its form. -/
structure KeepsBlanks (c : Char) (form : List Char) : Prop where
  blank : isBlank c = true → form = [c]
  shown : isBlank c = false → ∀ d ∈ form, isBlank d = false

theorem CaseTable.AvoidsBlanks.keepsBlanks {table : CaseTable} (htable : table.AvoidsBlanks)
    (c : Char) : KeepsBlanks c (table.apply c) := by
  rcases table.eq_or_mem_images c with hsame | ⟨codes, hentry, himage⟩
  · rw [hsame]
    refine ⟨fun _ => rfl, ?_⟩
    intro hc d hd
    rw [List.mem_singleton.mp hd]
    exact hc
  · obtain ⟨hcode, hcodes⟩ := htable.of_mem_images hentry
    constructor
    · intro hc
      have hshown : isBlank c = false := hcode
      rw [hc] at hshown
      cases hshown
    · intro _ d hd
      rw [himage] at hd
      obtain ⟨code, hmem, rfl⟩ := List.mem_map.mp hd
      exact isBlank_ofNat (hcodes code hmem)

theorem avoidsBlanks_lower : CaseTable.AvoidsBlanks ⟨lowerRuns, lowerExpansions⟩ :=
  ⟨by decide +kernel, by decide +kernel⟩

theorem avoidsBlanks_upper : CaseTable.AvoidsBlanks ⟨upperRuns, upperExpansions⟩ :=
  ⟨by decide +kernel, by decide +kernel⟩

/-! ### Characters -/

theorem KeepsBlanks.mem_iff {c : Char} {form : List Char} (hkeeps : KeepsBlanks c form) {a : Char}
    (ha : isBlank a = true) : a ∈ form ↔ a = c := by
  cases hc : isBlank c with
  | true => rw [hkeeps.blank hc, List.mem_singleton]
  | false =>
    refine iff_of_false ?_ ?_
    · intro hmem
      have hshown := hkeeps.shown hc a hmem
      rw [ha] at hshown
      cases hshown
    · rintro rfl
      rw [ha] at hc
      cases hc

theorem keepsBlanks_lowercase (c : Char) : KeepsBlanks c (lowercase c) :=
  avoidsBlanks_lower.keepsBlanks c

theorem keepsBlanks_uppercase (c : Char) : KeepsBlanks c (uppercase c) :=
  avoidsBlanks_upper.keepsBlanks c

/-- The forms that a character has at the start of a word only. -/
def wordStarts : List (List Char) := [['ǅ'], ['ǈ'], ['ǋ'], ['ǲ'], ['S', 's']]

theorem titlecase_eq_or_mem (c : Char) :
    titlecase c = uppercase c ∨ isBlank c = false ∧ titlecase c ∈ wordStarts := by
  unfold titlecase
  split_ifs with hfirst hsecond hthird hfourth hsharp
  · exact .inr ⟨by rcases hfirst with rfl | rfl | rfl <;> decide, by decide⟩
  · exact .inr ⟨by rcases hsecond with rfl | rfl | rfl <;> decide, by decide⟩
  · exact .inr ⟨by rcases hthird with rfl | rfl | rfl <;> decide, by decide⟩
  · exact .inr ⟨by rcases hfourth with rfl | rfl | rfl <;> decide, by decide⟩
  · exact .inr ⟨by rw [hsharp]; decide, by decide⟩
  · exact .inl rfl

theorem titlecase_ne_nil (c : Char) : titlecase c ≠ [] := by
  rcases titlecase_eq_or_mem c with hupper | ⟨-, hstart⟩
  · rw [hupper]
    exact uppercase_ne_nil c
  · intro hempty
    rw [hempty] at hstart
    simp [wordStarts] at hstart

theorem keepsBlanks_titlecase (c : Char) : KeepsBlanks c (titlecase c) := by
  rcases titlecase_eq_or_mem c with hupper | ⟨hc, hstart⟩
  · rw [hupper]
    exact keepsBlanks_uppercase c
  · have hforms : (wordStarts.all fun form => form.all fun d => !isBlank d) = true := by decide
    constructor
    · intro hblank
      rw [hc] at hblank
      cases hblank
    · intro _ d hd
      have hform := List.all_eq_true.mp (List.all_eq_true.mp hforms _ hstart) d hd
      simpa using hform

theorem lowerWithin_ne_nil (before : List Char) (c : Char) (after : List Char) :
    lowerWithin before c after ≠ [] := by
  unfold lowerWithin
  split
  · exact List.cons_ne_nil _ _
  · exact lowercase_ne_nil c

theorem keepsBlanks_lowerWithin (before : List Char) (c : Char) (after : List Char) :
    KeepsBlanks c (lowerWithin before c after) := by
  unfold lowerWithin
  split
  · next hsigma =>
    have hshown : isBlank 'Σ' = false ∧ isBlank 'ς' = false ∧ isBlank 'σ' = false := by
      decide +kernel
    rw [hsigma]
    constructor
    · intro hblank
      rw [hshown.1] at hblank
      cases hblank
    · intro _ d hd
      rw [List.mem_singleton.mp hd]
      split
      · exact hshown.2.1
      · exact hshown.2.2
  · exact keepsBlanks_lowercase c

/-! ### Texts -/

section Texts

variable {a : Char} {text : List Char}

theorem mem_titleFrom_iff (ha : isBlank a = true) {inWord : Bool} :
    a ∈ titleFrom inWord text ↔ a ∈ text := by
  induction text generalizing inWord with
  | nil => rfl
  | cons c text ih =>
    have hform : a ∈ (if inWord then lowercase c else titlecase c) ↔ a = c := by
      cases inWord
      · exact (keepsBlanks_titlecase c).mem_iff ha
      · exact (keepsBlanks_lowercase c).mem_iff ha
    rw [titleFrom, List.mem_append, List.mem_cons, hform, ih]

theorem mem_lowerFrom_iff (ha : isBlank a = true) {before : List Char} :
    a ∈ lowerFrom before text ↔ a ∈ text := by
  induction text generalizing before with
  | nil => rfl
  | cons c text ih =>
    rw [lowerFrom, List.mem_append, List.mem_cons, (keepsBlanks_lowerWithin _ c _).mem_iff ha, ih]

end Texts

end Text

/-- A text has the same blanks in either case. -/
theorem Casing.mem_onText_iff {a : Char} (ha : Text.isBlank a = true) {casing : Casing}
    {text : List Char} : a ∈ casing.onText text ↔ a ∈ text := by
  cases casing with
  | title => exact Text.mem_titleFrom_iff ha
  | lower => exact Text.mem_lowerFrom_iff ha

end PlanScaffold
