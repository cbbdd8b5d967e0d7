/-
  PlanScaffold/Proofs/Text/Settling.lean
  ======================================
  **A character that was given its case keeps it.**

  A table *settles* when it moves none of its own images.  Both case tables do, so each character
  of a lowercase form is its own lowercase form, and likewise for uppercase forms.  A sigma that
  was lowered is no capital any more, final or not, so a text in lower case stays as it is
  (`lowerText_lowerText`).

  The stretches to which a table maps are held against those that it moves.  Capital and small
  letters alternate in much of Unicode, so the bounds of two stretches do not always tell them
  apart, and their members are looked at where they do not (`Stretch.misses`).  To keep the number
  of such pairs small, stretches are put together in pages, which most others miss as a whole.
-/
import Mathlib.Data.List.SplitBy
import PlanScaffold.Proofs.Text.Blanks

namespace PlanScaffold

namespace Text

/-! ### Stretches -/

namespace Stretch

/-- The stretch of one code point. -/
def single (code : Nat) : Stretch := ⟨code, 1, 1⟩

/-- Whether no member of the first stretch is in the second. -/
def misses (s t : Stretch) : Bool :=
  s.apart t || s.members.all fun n => !t.contains n

/-- No stretch of a page begins below this code point. -/
def lowest (page : List Stretch) : Nat :=
  page.foldr (fun s code => Nat.min s.first code) 0x110000

/-- No stretch of a page ends above this code point. -/
def highest (page : List Stretch) : Nat :=
  page.foldr (fun s code => Nat.max s.last code) 0

/-- Whether no member of a stretch is on a page. -/
def missesAll (s : Stretch) (page : List Stretch) : Bool :=
  s.last.blt (lowest page) || (highest page).blt s.first || page.all s.misses

theorem mem_members_single (code : Nat) : code ∈ (single code).members := by
  simp [single, members]

theorem contains_single (code : Nat) : (single code).contains code = true := by
  simp [single, contains]

theorem contains_eq_false_of_misses {s t : Stretch} (hmisses : s.misses t = true) {n : Nat}
    (hmem : n ∈ s.members) : t.contains n = false := by
  rcases (Bool.or_eq_true _ _).mp hmisses with hapart | hall
  · exact contains_eq_false_of_apart hapart hmem
  · simpa using List.all_eq_true.mp hall n hmem

theorem lowest_le {page : List Stretch} {t : Stretch} (ht : t ∈ page) : lowest page ≤ t.first := by
  induction page with
  | nil => cases ht
  | cons s page ih =>
    rcases List.mem_cons.mp ht with rfl | hmem
    · exact Nat.min_le_left _ _
    · exact Nat.le_trans (Nat.min_le_right _ _) (ih hmem)

theorem le_highest {page : List Stretch} {t : Stretch} (ht : t ∈ page) : t.last ≤ highest page := by
  induction page with
  | nil => cases ht
  | cons s page ih =>
    rcases List.mem_cons.mp ht with rfl | hmem
    · exact Nat.le_max_left _ _
    · exact Nat.le_trans (ih hmem) (Nat.le_max_right _ _)

theorem contains_eq_false_of_missesAll {s t : Stretch} {page : List Stretch}
    (hmisses : s.missesAll page = true) (ht : t ∈ page) {n : Nat} (hmem : n ∈ s.members) :
    t.contains n = false := by
  have hfirst := lowest_le ht
  have hlast := le_highest ht
  rw [missesAll, Bool.or_eq_true, Bool.or_eq_true, Nat.blt_eq, Nat.blt_eq] at hmisses
  rcases hmisses with hbounds | hall
  · have hapart : s.apart t = true := by
      rw [apart, Bool.or_eq_true, Nat.blt_eq, Nat.blt_eq]
      omega
    exact contains_eq_false_of_apart hapart hmem
  · exact contains_eq_false_of_misses (List.all_eq_true.mp hall t ht) hmem

end Stretch

/-! ### Tables -/

namespace CaseTable

/-- The code points that a table moves. -/
def moved (table : CaseTable) : List Stretch :=
  table.runs.map CaseRun.source ++ table.expansions.map fun entry => .single entry.1

/-- The code points to which a table maps. -/
def targets (table : CaseTable) : List Stretch :=
  table.runs.map CaseRun.target ++ table.expansions.flatMap fun entry => entry.2.map .single

/-- The code points that a table moves, in pages of neighbours. -/
def pages (table : CaseTable) : List (List Stretch) :=
  table.moved.splitBy fun s t => (s.first / 0x100).beq (t.first / 0x100)

/-- Whether no image is moved.  A code point that is no character is read as zero. -/
def settles (table : CaseTable) : Bool :=
  (table.targets.all fun s => table.pages.all s.missesAll) && (table.image? 0).isNone

variable {table : CaseTable}

theorem image?_eq_none {n : Nat} (hmoved : ∀ s ∈ table.moved, s.contains n = false) :
    table.image? n = none := by
  have hruns : table.runs.find? (fun run => run.source.contains n) = none := by
    rw [List.find?_eq_none]
    intro run hrun
    rw [hmoved run.source (List.mem_append_left _ (List.mem_map_of_mem hrun))]
    exact Bool.false_ne_true
  have hexpansions : table.expansions.lookup n = none := by
    rw [List.lookup_eq_none_iff]
    intro entry hentry
    rw [bne_iff_ne]
    rintro rfl
    have hmem : .single entry.1 ∈ table.moved :=
      List.mem_append_right _ (List.mem_map.mpr ⟨entry, hentry, rfl⟩)
    have hkey := hmoved (.single entry.1) hmem
    rw [Stretch.contains_single] at hkey
    cases hkey
  rw [image?, hruns]
  exact hexpansions

theorem image?_eq_none_of_mem_targets (hsettles : table.settles = true) {s : Stretch}
    (hs : s ∈ table.targets) {code : Nat} (hcode : code ∈ s.members) :
    table.image? code = none := by
  apply image?_eq_none
  intro t ht
  have hpages : table.pages.flatten = table.moved := List.flatten_splitBy _ _
  rw [← hpages] at ht
  obtain ⟨page, hpage, hmem⟩ := List.mem_flatten.mp ht
  have hall := List.all_eq_true.mp ((Bool.and_eq_true _ _).mp hsettles).1 s hs
  exact Stretch.contains_eq_false_of_missesAll (List.all_eq_true.mp hall page hpage) hmem hcode

theorem exists_target_of_mem_images {n : Nat} {codes : List Nat}
    (himage : (n, codes) ∈ table.images) {code : Nat} (hcode : code ∈ codes) :
    ∃ s ∈ table.targets, code ∈ s.members := by
  rcases List.mem_append.mp himage with hmoved | hexpansion
  · obtain ⟨run, hrun, hmember⟩ := List.mem_flatMap.mp hmoved
    obtain ⟨m, hm, hentry⟩ := List.mem_map.mp hmember
    cases hentry
    rw [List.mem_singleton.mp hcode]
    exact ⟨run.target, List.mem_append_left _ (List.mem_map_of_mem hrun),
      CaseRun.image_mem_target hm⟩
  · refine ⟨.single code, List.mem_append_right _ ?_, Stretch.mem_members_single code⟩
    exact List.mem_flatMap.mpr ⟨(n, codes), hexpansion, List.mem_map_of_mem hcode⟩

/-- A table that settles leaves the characters of its forms alone. -/
theorem apply_of_mem_apply (hsettles : table.settles = true) {c d : Char} (hd : d ∈ table.apply c) :
    table.apply d = [d] := by
  rcases table.eq_or_mem_images c with hsame | ⟨codes, himage, hforms⟩
  · rw [hsame, List.mem_singleton] at hd
    rw [hd, hsame]
  · rw [hforms] at hd
    obtain ⟨code, hcode, rfl⟩ := List.mem_map.mp hd
    obtain ⟨s, hs, hmem⟩ := exists_target_of_mem_images himage hcode
    have hkept : table.image? (Char.ofNat code).toNat = none := by
      by_cases hvalid : code.isValidChar
      · rw [Char.ofNat, dif_pos hvalid]
        exact image?_eq_none_of_mem_targets hsettles hs hmem
      · rw [Char.ofNat, dif_neg hvalid]
        exact Option.isNone_iff_eq_none.mp ((Bool.and_eq_true _ _).mp hsettles).2
    rw [apply, hkept]

end CaseTable

theorem settles_lower : CaseTable.settles ⟨lowerRuns, lowerExpansions⟩ = true := by decide +kernel

theorem settles_upper : CaseTable.settles ⟨upperRuns, upperExpansions⟩ = true := by decide +kernel

/-! ### Characters -/

theorem lowercase_of_mem_lowercase {c d : Char} (hd : d ∈ lowercase c) : lowercase d = [d] :=
  CaseTable.apply_of_mem_apply settles_lower hd

theorem uppercase_of_mem_uppercase {c d : Char} (hd : d ∈ uppercase c) : uppercase d = [d] :=
  CaseTable.apply_of_mem_apply settles_upper hd

theorem lowercase_sigmas :
    lowercase 'Σ' = ['σ'] ∧ lowercase 'σ' = ['σ'] ∧ lowercase 'ς' = ['ς'] := by
  decide +kernel

theorem lowercase_of_mem_lowerWithin {before after : List Char} {c d : Char}
    (hd : d ∈ lowerWithin before c after) : lowercase d = [d] := by
  unfold lowerWithin at hd
  split at hd
  · rw [List.mem_singleton.mp hd]
    split
    · exact lowercase_sigmas.2.2
    · exact lowercase_sigmas.2.1
  · exact lowercase_of_mem_lowercase hd

/-- A character that is its own lowercase form is so wherever it stands. -/
theorem lowerWithin_of_lowercase {c : Char} (hc : lowercase c = [c]) (before after : List Char) :
    lowerWithin before c after = [c] := by
  have hsigma : c ≠ 'Σ' := by
    rintro rfl
    rw [lowercase_sigmas.1] at hc
    exact absurd hc (by decide)
  rw [lowerWithin, if_neg hsigma, hc]

/-! ### Texts -/

theorem lowercase_of_mem_lowerFrom {before text : List Char} {d : Char}
    (hd : d ∈ lowerFrom before text) : lowercase d = [d] := by
  induction text generalizing before with
  | nil => cases hd
  | cons c text ih =>
    rcases List.mem_append.mp hd with hform | hrest
    · exact lowercase_of_mem_lowerWithin hform
    · exact ih hrest

theorem lowerFrom_eq_self {text : List Char} (htext : ∀ c ∈ text, lowercase c = [c])
    (before : List Char) : lowerFrom before text = text := by
  induction text generalizing before with
  | nil => rfl
  | cons c text ih =>
    have hrest := ih (fun d hd => htext d (List.mem_cons_of_mem c hd)) (c :: before)
    rw [lowerFrom, lowerWithin_of_lowercase (htext c List.mem_cons_self), hrest,
      List.singleton_append]

theorem lowerText_lowerText (text : List Char) : lowerText (lowerText text) = lowerText text :=
  lowerFrom_eq_self (fun _ => lowercase_of_mem_lowerFrom) []

end Text

end PlanScaffold
