/-
  PlanScaffold/Proofs/Tokens/LetterCase.lean
  ==========================================
  **The case in which letters are typed does not matter.**

  Tokens do not depend on whether the letters A to Z of an answer are capital or small.  A capital
  and its small letter have the same forms, and whatever else is asked of a character gets the same
  reply for both (`Alike`); so a change of such letters cannot be seen where the answer is trimmed
  and cut, nor in the case of any other character, however far away it stands
  (`tokenize_toLower`).
-/
import PlanScaffold.Proofs.Text.Ascii
import PlanScaffold.Proofs.Tokens

namespace PlanScaffold

namespace Text

/-! ### Characters -/

/-- Two characters that trimming, cutting and casing cannot tell apart. -/
structure Alike (c d : Char) : Prop where
  blank : isBlank c = isBlank d
  space : c = ' ' ↔ d = ' '
  sigma : c = 'Σ' ↔ d = 'Σ'
  ignorable : isCaseIgnorable c = isCaseIgnorable d
  cased : isCased c = isCased d
  word : continuesWord c = continuesWord d
  lower : lowercase c = lowercase d
  title : titlecase c = titlecase d

theorem Alike.refl (c : Char) : Alike c c := ⟨rfl, .rfl, .rfl, rfl, rfl, rfl, rfl, rfl⟩

theorem alike_toLower_ascii {c : Char} (hc : c.toNat < 128) : Alike c.toLower c := by
  obtain ⟨hsmall, -, hblank, hspace⟩ := shifts_ascii hc
  have hsigma : ∀ {d : Char}, d.toNat < 128 → d ≠ 'Σ' := by
    rintro d hd rfl
    exact absurd hd (by decide)
  exact {
    blank := hblank
    space := hspace
    sigma := iff_of_false (hsigma hsmall) (hsigma hc)
    ignorable := isCaseIgnorable_toLower hc
    cased := by rw [isCased_ascii hsmall, isCased_ascii hc, Char.isAlpha_toLower_eq_isAlpha]
    word := by
      rw [continuesWord_ascii hsmall, continuesWord_ascii hc, Char.isAlpha_toLower_eq_isAlpha]
    lower := by rw [lowercase_ascii hsmall, lowercase_ascii hc, Char.toLower_toLower_eq_toLower]
    title := by rw [titlecase_ascii hsmall, titlecase_ascii hc, Char.toUpper_toLower_eq_toUpper] }

/-- A letter from A to Z is like its small letter, and every other character is left alone. -/
theorem alike_toLower (c : Char) : Alike c.toLower c := by
  by_cases hupper : c.val ≥ 'A'.val ∧ c.val ≤ 'Z'.val
  · apply alike_toLower_ascii
    have hlast : c.val.toNat ≤ 'Z'.val.toNat := UInt32.le_iff_toNat_le.mp hupper.2
    exact Nat.lt_of_le_of_lt hlast (by decide)
  · rw [Char.toLower, dif_neg hupper]
    exact .refl c

/-! ### Texts -/

section Texts

variable {change : Char → Char}

theorem dropWhile_map_of_same {test : Char → Bool} (htest : ∀ c, test (change c) = test c)
    (text : List Char) : (text.map change).dropWhile test = (text.dropWhile test).map change := by
  have hsame : test ∘ change = test := funext htest
  rw [List.dropWhile_map, hsame]

variable (hchange : ∀ c, Alike (change c) c)

include hchange

theorem trim_map (text : List Char) : trim (text.map change) = (trim text).map change := by
  have hblank : ∀ c, isBlank (change c) = isBlank c := fun c => (hchange c).blank
  rw [trim, trimStart, dropWhile_map_of_same hblank, trimEnd, ← List.map_reverse,
    dropWhile_map_of_same hblank, ← List.map_reverse]
  rfl

theorem splitOn_map (text : List Char) :
    (text.map change).splitOn ' ' = (text.splitOn ' ').map (List.map change) := by
  induction text with
  | nil => rfl
  | cons c text ih =>
    have hspace : (change c == ' ') = (c == ' ') := by
      rw [Bool.eq_iff_iff, beq_iff_eq, beq_iff_eq]
      exact (hchange c).space
    rw [List.map_cons, List.splitOn_cons_eq_if_modifyHead, List.splitOn_cons_eq_if_modifyHead,
      hspace, ih]
    split
    · rfl
    · cases text.splitOn ' ' <;> rfl

theorem words_map (text : List Char) :
    words (text.map change) = (words text).map (List.map change) := by
  cases text with
  | nil => rfl
  | cons c text =>
    have hchanged : List.map change (c :: text) ≠ [] := List.cons_ne_nil _ _
    rw [words_of_ne_nil hchanged, splitOn_map hchange, words_of_ne_nil (List.cons_ne_nil c text)]

theorem titleFrom_map (inWord : Bool) (text : List Char) :
    titleFrom inWord (text.map change) = titleFrom inWord text := by
  induction text generalizing inWord with
  | nil => rfl
  | cons c text ih =>
    have hform : titleForm inWord (change c) = titleForm inWord c := by
      rw [titleForm, titleForm, (hchange c).lower, (hchange c).title]
    rw [List.map_cons, titleFrom_cons, titleFrom_cons, hform, (hchange c).word, ih]

theorem meetsCased_map (text : List Char) : meetsCased (text.map change) = meetsCased text := by
  have hignorable : ∀ c, isCaseIgnorable (change c) = isCaseIgnorable c :=
    fun c => (hchange c).ignorable
  rw [meetsCased, meetsCased, dropWhile_map_of_same hignorable]
  cases text.dropWhile isCaseIgnorable with
  | nil => rfl
  | cons c rest => exact (hchange c).cased

theorem lowerWithin_map (before : List Char) (c : Char) (after : List Char) :
    lowerWithin (before.map change) (change c) (after.map change) = lowerWithin before c after := by
  rw [lowerWithin, lowerWithin, meetsCased_map hchange, meetsCased_map hchange, (hchange c).lower]
  simp only [(hchange c).sigma]

theorem lowerFrom_map (before text : List Char) :
    lowerFrom (before.map change) (text.map change) = lowerFrom before text := by
  induction text generalizing before with
  | nil => rfl
  | cons c text ih =>
    have hrest := ih (c :: before)
    rw [List.map_cons] at hrest
    rw [List.map_cons, lowerFrom, lowerFrom, lowerWithin_map hchange, hrest]

theorem onText_map (casing : Casing) (text : List Char) :
    casing.onText (text.map change) = casing.onText text := by
  cases casing with
  | title => exact titleFrom_map hchange false text
  | lower => exact lowerFrom_map hchange [] text

end Texts

end Text

/-! ### Tokens -/

open Text

theorem EmptyTokens.select_map (policy : EmptyTokens) (change : Char → Char)
    (pieces : List (List Char)) :
    policy.select (pieces.map (List.map change)) =
      (policy.select pieces).map (List.map change) := by
  cases policy with
  | preserve => rfl
  | collapse =>
    have hsame : (fun piece : List Char => !piece.isEmpty) ∘ List.map change =
        fun piece => !piece.isEmpty := by
      funext piece
      cases piece <;> rfl
    rw [select, select, List.filter_map, hsame]

theorem tokenize_toLower (answer : String) (casing : Casing) (policy : EmptyTokens) :
    tokenize answer.toLower casing policy = tokenize answer casing policy := by
  rw [tokenize, String.toLower, String.toList_map, trim_map alike_toLower,
    words_map alike_toLower, EmptyTokens.select_map, List.map_map, tokenize]
  apply List.map_congr_left
  intro piece _
  exact congrArg String.ofList (onText_map alike_toLower casing piece)

/-- **The case of typed letters does not matter.**  Answers that are the same after each letter from
    A to Z became small, all other characters being left alone, have the same tokens. -/
theorem tokenize_of_toLower_eq {answer other : String} (hsame : answer.toLower = other.toLower)
    (casing : Casing) (policy : EmptyTokens) :
    tokenize answer casing policy = tokenize other casing policy := by
  rw [← tokenize_toLower answer, hsame, tokenize_toLower]

/-- The sigma is final in both answers, and an apostrophe is between it and the letter. -/
theorem tokenize_of_toLower_eq_sigma :
    "A'Σ  lAUNCH_pad".toLower = "a'Σ  Launch_PAD".toLower ∧
    tokenize "A'Σ  lAUNCH_pad" .lower .preserve = tokenize "a'Σ  Launch_PAD" .lower .preserve ∧
    tokenize "A'Σ  lAUNCH_pad" .title .collapse = tokenize "a'Σ  Launch_PAD" .title .collapse := by
  have hsame : "A'Σ  lAUNCH_pad".toLower = "a'Σ  Launch_PAD".toLower := by
    rw [← String.toList_inj, String.toLower, String.toLower, String.toList_map, String.toList_map]
    decide
  exact ⟨hsame, tokenize_of_toLower_eq hsame .lower .preserve,
    tokenize_of_toLower_eq hsame .title .collapse⟩

end PlanScaffold
