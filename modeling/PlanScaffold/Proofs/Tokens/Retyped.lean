/-
  PlanScaffold/Proofs/Tokens/Retyped.lean
  =======================================
  **Tokens that are typed again.**

  The tokens of an answer, typed again with single spaces between them, are the tokens of this
  second answer (`tokenize_retyped`).  Every step finds its work done: the text neither begins nor
  ends with a blank and has a space exactly between two tokens (`WellCut`), the policy has nothing
  left to drop, and a text in its case keeps it.  For title case the last is not so outside of
  ASCII: a ligature becomes two capital letters, and the second of these is not at the start of the
  word any more when they are typed again.
-/
import PlanScaffold.Proofs.Text.Ascii
import PlanScaffold.Proofs.Tokens

namespace PlanScaffold

open Text

/-! ### Texts in their case -/

theorem Casing.onText_onText {casing : Casing} {text : List Char}
    (htext : casing = .title → ∀ c ∈ text, c.toNat < 128) :
    casing.onText (casing.onText text) = casing.onText text := by
  cases casing with
  | title => exact titleFrom_titleFrom (htext rfl) false
  | lower => exact lowerText_lowerText text

/-! ### Words that can be put together -/

/-- Words that can be told apart again in the text that they make with single spaces between them,
    which neither begins nor ends with a blank. -/
structure WellCut (pieces : List (List Char)) : Prop where
  space : ∀ piece ∈ pieces, ' ' ∉ piece
  first : ∀ piece, pieces.head? = some piece → ∃ c, piece.head? = some c ∧ isBlank c = false
  last : ∀ piece, pieces.getLast? = some piece → ∃ c, piece.getLast? = some c ∧ isBlank c = false

theorem head?_intercalate {pieces : List (List Char)} {piece : List Char} {c : Char}
    (hpiece : pieces.head? = some piece) (hc : piece.head? = some c) :
    ([' '].intercalate pieces).head? = some c := by
  rcases pieces with _ | ⟨first, _ | ⟨next, rest⟩⟩
  · cases hpiece
  · cases hpiece
    rw [List.intercalate_singleton, hc]
  · cases hpiece
    rw [List.intercalate_cons_cons, List.append_assoc, List.head?_append, hc, Option.some_or]

theorem getLast?_intercalate {pieces : List (List Char)} {piece : List Char} {c : Char}
    (hpiece : pieces.getLast? = some piece) (hc : piece.getLast? = some c) :
    ([' '].intercalate pieces).getLast? = some c := by
  induction pieces with
  | nil => cases hpiece
  | cons first rest ih =>
    cases rest with
    | nil =>
      obtain rfl : first = piece := Option.some.inj hpiece
      rw [List.intercalate_singleton, hc]
    | cons next rest =>
      rw [List.getLast?_cons_cons] at hpiece
      rw [List.intercalate_cons_cons, List.getLast?_append, ih hpiece, Option.some_or]

theorem EmptyTokens.head?_select {policy : EmptyTokens} {pieces : List (List Char)}
    (hfirst : pieces.head? ≠ some []) : (policy.select pieces).head? = pieces.head? := by
  cases policy with
  | preserve => rfl
  | collapse =>
    cases pieces with
    | nil => rfl
    | cons piece rest =>
      have hne : piece ≠ [] := fun hempty => hfirst (congrArg some hempty)
      simp [select, hne]

theorem EmptyTokens.getLast?_select {policy : EmptyTokens} {pieces : List (List Char)}
    (hlast : pieces.getLast? ≠ some []) : (policy.select pieces).getLast? = pieces.getLast? := by
  cases policy with
  | preserve => rfl
  | collapse =>
    cases hpieces : pieces.getLast? with
    | none =>
      rw [List.getLast?_eq_none_iff.mp hpieces]
      rfl
    | some piece =>
      obtain ⟨others, rfl⟩ := List.getLast?_eq_some_iff.mp hpieces
      have hne : piece ≠ [] := by
        rintro rfl
        exact hlast hpieces
      simp [select, hne]

namespace WellCut

variable {pieces : List (List Char)}

theorem head?_ne (hcut : WellCut pieces) : pieces.head? ≠ some [] := by
  intro hempty
  obtain ⟨c, hc, -⟩ := hcut.first [] hempty
  cases hc

theorem getLast?_ne (hcut : WellCut pieces) : pieces.getLast? ≠ some [] := by
  intro hempty
  obtain ⟨c, hc, -⟩ := hcut.last [] hempty
  cases hc

theorem select (hcut : WellCut pieces) (policy : EmptyTokens) : WellCut (policy.select pieces) where
  space := fun piece hpiece => hcut.space piece (EmptyTokens.mem_of_mem_select hpiece)
  first := fun piece hpiece => hcut.first piece (EmptyTokens.head?_select hcut.head?_ne ▸ hpiece)
  last := fun piece hpiece =>
    hcut.last piece (EmptyTokens.getLast?_select hcut.getLast?_ne ▸ hpiece)

theorem map_onText (hcut : WellCut pieces) (casing : Casing) :
    WellCut (pieces.map casing.onText) where
  space := by
    intro word hword
    obtain ⟨piece, hpiece, rfl⟩ := List.mem_map.mp hword
    rw [Casing.space_mem_onText_iff]
    exact hcut.space piece hpiece
  first := by
    intro word hword
    rw [List.head?_map] at hword
    obtain ⟨piece, hpiece, rfl⟩ := Option.map_eq_some_iff.mp hword
    obtain ⟨c, hc, hshown⟩ := hcut.first piece hpiece
    rw [← casing.flatten_forms]
    exact exists_head?_flatten (casing.renders_forms piece) hc hshown
  last := by
    intro word hword
    rw [List.getLast?_map] at hword
    obtain ⟨piece, hpiece, rfl⟩ := Option.map_eq_some_iff.mp hword
    obtain ⟨c, hc, hshown⟩ := hcut.last piece hpiece
    rw [← casing.flatten_forms]
    exact exists_getLast?_flatten (casing.renders_forms piece) hc hshown

theorem trimmed_intercalate (hcut : WellCut pieces) : Trimmed ([' '].intercalate pieces) := by
  constructor
  · intro d hd
    cases hpieces : pieces.head? with
    | none =>
      rw [List.head?_eq_none_iff.mp hpieces] at hd
      cases hd
    | some piece =>
      obtain ⟨c, hc, hshown⟩ := hcut.first piece hpieces
      rw [head?_intercalate hpieces hc] at hd
      cases hd
      exact hshown
  · intro d hd
    cases hpieces : pieces.getLast? with
    | none =>
      rw [List.getLast?_eq_none_iff.mp hpieces] at hd
      cases hd
    | some piece =>
      obtain ⟨c, hc, hshown⟩ := hcut.last piece hpieces
      rw [getLast?_intercalate hpieces hc] at hd
      cases hd
      exact hshown

/-- The words of a text that was put together are what it was put together from. -/
theorem words_trim_intercalate (hcut : WellCut pieces) :
    words (trim ([' '].intercalate pieces)) = pieces := by
  rw [hcut.trimmed_intercalate.trim_eq]
  cases pieces with
  | nil => rfl
  | cons piece rest =>
    have htext : [' '].intercalate (piece :: rest) ≠ [] := by
      intro hempty
      obtain ⟨c, hc, -⟩ := hcut.first piece rfl
      have hfirst : ([' '].intercalate (piece :: rest)).head? = some c := head?_intercalate rfl hc
      rw [hempty] at hfirst
      cases hfirst
    rw [words_of_ne_nil htext]
    exact List.splitOn_intercalate ' ' hcut.space (List.cons_ne_nil piece rest)

end WellCut

theorem wellCut_words {text : List Char} (htext : Trimmed text) : WellCut (words text) where
  space := fun _ => space_notMem_of_mem_words
  first := by
    intro piece hpiece
    have hne := head?_words_trim_ne text
    rw [htext.trim_eq, hpiece] at hne
    cases piece with
    | nil => exact (hne rfl).elim
    | cons c rest =>
      have hfirst := head?_intercalate hpiece rfl
      rw [intercalate_words] at hfirst
      exact ⟨c, rfl, htext.first c hfirst⟩
  last := by
    intro piece hpiece
    have hne := getLast?_words_trim_ne text
    rw [htext.trim_eq, hpiece] at hne
    cases hlast : piece.getLast? with
    | none => exact (hne (congrArg some (List.getLast?_eq_none_iff.mp hlast))).elim
    | some c =>
      have hend := getLast?_intercalate hpiece hlast
      rw [intercalate_words] at hend
      exact ⟨c, rfl, htext.last c hend⟩

/-! ### Tokens -/

/-- Words that the policy let through are let through again, in any case. -/
theorem EmptyTokens.select_map_onText (policy : EmptyTokens) (casing : Casing)
    (pieces : List (List Char)) :
    policy.select ((policy.select pieces).map casing.onText) =
      (policy.select pieces).map casing.onText := by
  cases policy with
  | preserve => rfl
  | collapse =>
    show List.filter _ _ = _
    rw [List.filter_eq_self]
    intro word hword
    obtain ⟨piece, hpiece, rfl⟩ := List.mem_map.mp hword
    have hne : piece ≠ [] := by simpa using (List.mem_filter.mp hpiece).2
    simpa [Casing.onText_eq_nil_iff] using hne

theorem toList_intercalate_tokenize (answer : String) (casing : Casing) (policy : EmptyTokens) :
    (" ".intercalate (tokenize answer casing policy)).toList =
      [' '].intercalate ((policy.select (words (trim answer.toList))).map casing.onText) := by
  rw [String.toList_intercalate, tokenize, List.map_map]
  congr 1
  apply List.map_congr_left
  intro word _
  exact String.toList_ofList

/-- **Tokens typed again are the same tokens.**  The tokens of an answer, with single spaces between
    them, make an answer with these tokens, whatever the policy is: for lower case always, and for
    title case if the answer is made of ASCII characters. -/
theorem tokenize_retyped {answer : String} {casing : Casing}
    (hanswer : casing = .title → ∀ c ∈ answer.toList, c.toNat < 128) (policy : EmptyTokens) :
    tokenize (" ".intercalate (tokenize answer casing policy)) casing policy =
      tokenize answer casing policy := by
  have hcut := ((wellCut_words (trimmed_trim answer.toList)).select policy).map_onText casing
  rw [tokenize, toList_intercalate_tokenize, hcut.words_trim_intercalate,
    EmptyTokens.select_map_onText, List.map_map, tokenize]
  apply List.map_congr_left
  intro piece hpiece
  have hsubset := subset_of_mem_words (EmptyTokens.mem_of_mem_select hpiece)
  have hcase : casing.onText (casing.onText piece) = casing.onText piece := by
    apply Casing.onText_onText
    intro htitle c hc
    exact hanswer htitle c (trim_subset _ (hsubset hc))
  exact congrArg String.ofList hcase

example : tokenize "ﬁn" .title .preserve = ["FIn"] ∧ tokenize "FIn" .title .preserve = ["Fin"] := by
  decide +kernel

/-- For title case an answer of ASCII characters, for lower case one with sigmas and a letter whose
    lowercase form is two characters. -/
theorem tokenize_retyped_samples :
    (∀ c ∈ " lAUNCH_pad  2stage's\t".toList, c.toNat < 128) ∧
    tokenize (" ".intercalate (tokenize " lAUNCH_pad  2stage's\t" .title .preserve))
      .title .preserve = tokenize " lAUNCH_pad  2stage's\t" .title .preserve ∧
    tokenize (" ".intercalate (tokenize "ΟΔΟΣ  İΣ" .lower .collapse)) .lower .collapse =
      tokenize "ΟΔΟΣ  İΣ" .lower .collapse := by
  have hascii : ∀ c ∈ " lAUNCH_pad  2stage's\t".toList, c.toNat < 128 := by simp
  have hlower : Casing.lower = .title → ∀ c ∈ "ΟΔΟΣ  İΣ".toList, c.toNat < 128 := by
    intro htitle
    cases htitle
  exact ⟨hascii, tokenize_retyped (fun _ => hascii) .preserve, tokenize_retyped hlower .collapse⟩

end PlanScaffold
