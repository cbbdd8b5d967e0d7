/-
  PlanScaffold/Proofs/Text/Forms.lean
  ===================================
  **The forms that characters take, one by one.**

  A text in another case is made of the forms of its characters (`Casing.flatten_forms`), none of
  which is empty or makes a blank of what was none.  After a cased character both casings give the
  same form, with two exceptions: title case knows no final sigma, and it takes a titlecase letter
  other than the four Latin digraphs for the end of a word (`Casing.title_agrees_lower_iff`).
-/
import PlanScaffold.Proofs.Text.Settling

namespace PlanScaffold

namespace Text

/-! ### Forms -/

/-- The form of a character in title case, inside a word or at its start. -/
def titleForm (inWord : Bool) (c : Char) : List Char :=
  if inWord then lowercase c else titlecase c

/-- The forms of the characters of a text in title case. -/
def titleForms (inWord : Bool) : List Char → List (List Char)
  | [] => []
  | c :: rest => titleForm inWord c :: titleForms (continuesWord c) rest

/-- The forms of the characters of a text in lower case; the text follows `before`, which is read
    backwards. -/
def lowerForms (before : List Char) : List Char → List (List Char)
  | [] => []
  | c :: rest => lowerWithin before c rest :: lowerForms (c :: before) rest

theorem titleFrom_cons (inWord : Bool) (c : Char) (rest : List Char) :
    titleFrom inWord (c :: rest) = titleForm inWord c ++ titleFrom (continuesWord c) rest := rfl

theorem flatten_titleForms (inWord : Bool) (text : List Char) :
    (titleForms inWord text).flatten = titleFrom inWord text := by
  induction text generalizing inWord with
  | nil => rfl
  | cons c rest ih => rw [titleForms, List.flatten_cons, ih, titleFrom_cons]

theorem flatten_lowerForms (before text : List Char) :
    (lowerForms before text).flatten = lowerFrom before text := by
  induction text generalizing before with
  | nil => rfl
  | cons c rest ih => rw [lowerForms, List.flatten_cons, ih, lowerFrom]

theorem length_titleForms (inWord : Bool) (text : List Char) :
    (titleForms inWord text).length = text.length := by
  induction text generalizing inWord with
  | nil => rfl
  | cons c rest ih => rw [titleForms, List.length_cons, List.length_cons, ih]

theorem length_lowerForms (before text : List Char) :
    (lowerForms before text).length = text.length := by
  induction text generalizing before with
  | nil => rfl
  | cons c rest ih => rw [lowerForms, List.length_cons, List.length_cons, ih]

/-- Title case sees of what stands before a character only the character right before it. -/
theorem getElem?_titleForms (inWord : Bool) (before : List Char) (p c : Char) (after : List Char) :
    (titleForms inWord (before ++ p :: c :: after))[before.length + 1]? =
      some (titleForm (continuesWord p) c) := by
  induction before generalizing inWord with
  | nil => rfl
  | cons d before ih =>
    rw [List.cons_append, titleForms, List.length_cons, List.getElem?_cons_succ, ih]

/-- Lower case sees all that stands before a character. -/
theorem getElem?_lowerForms (old before : List Char) (c : Char) (after : List Char) :
    (lowerForms old (before ++ c :: after))[before.length]? =
      some (lowerWithin (before.reverse ++ old) c after) := by
  induction before generalizing old with
  | nil => rfl
  | cons d before ih =>
    rw [List.cons_append, lowerForms, List.length_cons, List.getElem?_cons_succ, ih,
      List.reverse_cons, List.append_assoc, List.singleton_append]

/-! ### The ends of a text -/

section Ends

/-- A form that is not empty, with the same blanks as its character. -/
structure Renders (c : Char) (form : List Char) : Prop extends KeepsBlanks c form where
  ne_nil : form ≠ []

theorem renders_titleForms (inWord : Bool) (text : List Char) :
    List.Forall₂ Renders text (titleForms inWord text) := by
  induction text generalizing inWord with
  | nil => exact .nil
  | cons c rest ih =>
    refine .cons ?_ (ih _)
    cases inWord with
    | true => exact ⟨keepsBlanks_lowercase c, lowercase_ne_nil c⟩
    | false => exact ⟨keepsBlanks_titlecase c, titlecase_ne_nil c⟩

theorem renders_lowerForms (before text : List Char) :
    List.Forall₂ Renders text (lowerForms before text) := by
  induction text generalizing before with
  | nil => exact .nil
  | cons c rest ih =>
    exact .cons ⟨keepsBlanks_lowerWithin before c rest, lowerWithin_ne_nil before c rest⟩ (ih _)

variable {text : List Char} {forms : List (List Char)} {c : Char}

theorem exists_head?_flatten (hforms : List.Forall₂ Renders text forms)
    (hc : text.head? = some c) (hshown : isBlank c = false) :
    ∃ d, forms.flatten.head? = some d ∧ isBlank d = false := by
  cases hforms with
  | nil => cases hc
  | @cons _ form _ _ hform _ =>
    cases hc
    obtain ⟨d, hd⟩ := Option.isSome_iff_exists.mp (List.isSome_head?.mpr hform.ne_nil)
    refine ⟨d, ?_, hform.shown hshown d (List.mem_of_mem_head? hd)⟩
    rw [List.flatten_cons, List.head?_append, hd, Option.some_or]

theorem exists_getLast?_flatten (hforms : List.Forall₂ Renders text forms)
    (hc : text.getLast? = some c) (hshown : isBlank c = false) :
    ∃ d, forms.flatten.getLast? = some d ∧ isBlank d = false := by
  induction hforms with
  | nil => cases hc
  | @cons first form rest forms hform hrest ih =>
    rw [List.flatten_cons, List.getLast?_append]
    cases hrest with
    | nil =>
      cases hc
      obtain ⟨d, hd⟩ := Option.isSome_iff_exists.mp (List.getLast?_isSome.mpr hform.ne_nil)
      exact ⟨d, by simpa using hd, hform.shown hshown d (List.mem_of_getLast? hd)⟩
    | cons =>
      rw [List.getLast?_cons_cons] at hc
      obtain ⟨d, hd, hblank⟩ := ih hc
      exact ⟨d, by rw [hd, Option.some_or], hblank⟩

end Ends

/-! ### Cased characters -/

theorem titlecaseLetters_apart :
    (titlecaseSet.all fun s => (uppercaseSet ++ lowercaseSet).all s.misses) = true := by
  decide +kernel

theorem not_upper_or_lower_of_isTitlecase {p : Char} (htitle : isTitlecase p = true) :
    isUppercase p = false ∧ isLowercase p = false := by
  obtain ⟨s, hs, hcontains⟩ := List.any_eq_true.mp htitle
  have hmisses := List.all_eq_true.mp (List.all_eq_true.mp titlecaseLetters_apart s hs)
  have hmem := Stretch.mem_members_of_contains hcontains
  constructor
  · rw [isUppercase, CharSet.has, List.any_eq_false]
    intro t ht
    rw [Stretch.contains_eq_false_of_misses (hmisses t (List.mem_append_left _ ht)) hmem]
    exact Bool.false_ne_true
  · rw [isLowercase, CharSet.has, List.any_eq_false]
    intro t ht
    rw [Stretch.contains_eq_false_of_misses (hmisses t (List.mem_append_right _ ht)) hmem]
    exact Bool.false_ne_true

/-- Of the cased characters only the titlecase letters that are no Latin digraphs end a word. -/
theorem continuesWord_eq_true_iff {p : Char} (hcased : isCased p = true) :
    continuesWord p = true ↔ (isTitlecase p = true → p ∈ latinDigraphs) := by
  cases htitle : isTitlecase p with
  | true =>
    obtain ⟨hupper, hlower⟩ := not_upper_or_lower_of_isTitlecase htitle
    simp [continuesWord, hupper, hlower]
  | false =>
    have hletter : (isUppercase p || isLowercase p) = true := by
      simpa [isCased, htitle] using hcased
    simp [continuesWord, hletter]

/-! ### Sigma -/

/-- Whether a sigma between two texts ends a word; the text before it is read backwards. -/
def endsWord (before after : List Char) : Bool := meetsCased before && !meetsCased after

theorem lowercase_eq_lowerWithin_iff {before after : List Char} {c : Char} :
    lowercase c = lowerWithin before c after ↔ ¬(c = 'Σ' ∧ endsWord before after = true) := by
  by_cases hsigma : c = 'Σ'
  · subst hsigma
    rw [lowerWithin, if_pos rfl, lowercase_sigmas.1]
    show _ = [if endsWord before after then _ else _] ↔ _
    cases endsWord before after <;> decide
  · simp [lowerWithin, hsigma]

theorem titlecase_sigma : titlecase 'Σ' = ['Σ'] := by decide +kernel

theorem titlecase_eq_lowerWithin_iff {before after : List Char} {c : Char} :
    titlecase c = lowerWithin before c after ↔ titlecase c = lowercase c := by
  by_cases hsigma : c = 'Σ'
  · subst hsigma
    rw [lowerWithin, if_pos rfl, lowercase_sigmas.1, titlecase_sigma]
    cases meetsCased before && !meetsCased after <;> decide
  · rw [lowerWithin, if_neg hsigma]

/-- The form of title case after a cased character is the form of lower case, unless one of the two
    exceptions applies. -/
theorem titleForm_eq_lowerWithin_iff {p : Char} (hcased : isCased p = true)
    {before after : List Char} {c : Char} :
    titleForm (continuesWord p) c = lowerWithin before c after ↔
      ¬(c = 'Σ' ∧ endsWord before after = true) ∧
      (isTitlecase p = true → p ∈ latinDigraphs ∨ titlecase c = lowercase c) := by
  cases hword : continuesWord p with
  | true =>
    have hdigraph := (continuesWord_eq_true_iff hcased).mp hword
    show lowercase c = _ ↔ _
    rw [lowercase_eq_lowerWithin_iff]
    exact ⟨fun hsigma => ⟨hsigma, fun htitle => .inl (hdigraph htitle)⟩, fun hboth => hboth.1⟩
  | false =>
    obtain ⟨htitle, hother⟩ : isTitlecase p = true ∧ p ∉ latinDigraphs := by
      rw [← Classical.not_imp, ← continuesWord_eq_true_iff hcased, hword]
      exact Bool.false_ne_true
    show titlecase c = _ ↔ _
    rw [titlecase_eq_lowerWithin_iff]
    constructor
    · intro hsame
      refine ⟨?_, fun _ => .inr hsame⟩
      -- a capital sigma is its own titlecase form
      rintro ⟨rfl, -⟩
      rw [titlecase_sigma, lowercase_sigmas.1] at hsame
      exact absurd hsame (by decide)
    · rintro ⟨-, hforms⟩
      exact (hforms htitle).resolve_left hother

end Text

/-! ### Both casings -/

open Text

namespace Casing

/-- The forms of the characters of a text. -/
def forms : Casing → List Char → List (List Char)
  | .title => titleForms false
  | .lower => lowerForms []

theorem flatten_forms (casing : Casing) (text : List Char) :
    (casing.forms text).flatten = casing.onText text := by
  cases casing with
  | title => exact flatten_titleForms false text
  | lower => exact flatten_lowerForms [] text

theorem length_forms (casing : Casing) (text : List Char) :
    (casing.forms text).length = text.length := by
  cases casing with
  | title => exact length_titleForms false text
  | lower => exact length_lowerForms [] text

theorem renders_forms (casing : Casing) (text : List Char) :
    List.Forall₂ Renders text (casing.forms text) := by
  cases casing with
  | title => exact renders_titleForms false text
  | lower => exact renders_lowerForms [] text

/-- **When title case and lower case agree inside a word.**  Each casing gives every character of a
    token one form, and the token in this case is these forms in order.  After a cased character
    both give the same form exactly when the character is no sigma that ends a word, and when it
    follows no titlecase letter other than a Latin digraph, unless its titlecase and lowercase forms
    are the same. -/
theorem title_agrees_lower_iff {token : String} {before after : List Char} {p c : Char}
    (htoken : token.toList = before ++ p :: c :: after) (hcased : isCased p = true) :
    (∀ casing : Casing, String.ofList (casing.forms token.toList).flatten = casing.apply token ∧
      (casing.forms token.toList).length = token.toList.length) ∧
    ∃ titled lowered,
      (Casing.title.forms token.toList)[before.length + 1]? = some titled ∧
      (Casing.lower.forms token.toList)[before.length + 1]? = some lowered ∧
      (titled = lowered ↔
        ¬(c = 'Σ' ∧ endsWord (p :: before.reverse) after = true) ∧
        (isTitlecase p = true → p ∈ latinDigraphs ∨ titlecase c = lowercase c)) := by
  refine ⟨?_, titleForm (continuesWord p) c, lowerWithin (p :: before.reverse) c after, ?_, ?_,
    titleForm_eq_lowerWithin_iff hcased⟩
  · intro casing
    exact ⟨by rw [flatten_forms, apply], length_forms casing _⟩
  · rw [htoken]
    exact getElem?_titleForms false before p c after
  · have hlower := getElem?_lowerForms [] (before ++ [p]) c after
    rw [List.append_assoc, List.singleton_append, List.length_append, List.length_singleton,
      List.reverse_append, List.reverse_singleton, List.singleton_append, List.append_nil] at hlower
    rw [htoken]
    exact hlower

/-- A sigma within a word has the same form in both cases. -/
theorem title_agrees_lower_amid_word :
    "ΑΣΑ".toList = [] ++ 'Α' :: 'Σ' :: ['Α'] ∧ isCased 'Α' = true ∧
      ∃ titled lowered, (Casing.title.forms "ΑΣΑ".toList)[1]? = some titled ∧
        (Casing.lower.forms "ΑΣΑ".toList)[1]? = some lowered ∧ titled = lowered := by
  have htoken : "ΑΣΑ".toList = [] ++ 'Α' :: 'Σ' :: ['Α'] := by decide
  have hcased : isCased 'Α' = true := by decide +kernel
  obtain ⟨titled, lowered, htitled, hlowered, hagree⟩ := (title_agrees_lower_iff htoken hcased).2
  exact ⟨htoken, hcased, titled, lowered, htitled, hlowered, hagree.mpr (by decide +kernel)⟩

/-- A sigma at the end of a word and a letter after a Greek titlecase letter have different forms in
    the two cases, though a cased letter stands before either. -/
theorem title_differs_from_lower :
    (isCased 'Ο' = true ∧ (Casing.title.forms ['Ο', 'Δ', 'Ο', 'Σ'])[3]? = some ['σ'] ∧
      (Casing.lower.forms ['Ο', 'Δ', 'Ο', 'Σ'])[3]? = some ['ς']) ∧
    isCased 'ᾈ' = true ∧ (Casing.title.forms ['ᾈ', 'Α'])[1]? = some ['Α'] ∧
      (Casing.lower.forms ['ᾈ', 'Α'])[1]? = some ['α'] := by
  decide +kernel

end Casing

end PlanScaffold
