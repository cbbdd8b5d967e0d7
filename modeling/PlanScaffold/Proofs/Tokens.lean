/-
  PlanScaffold/Proofs/Tokens.lean
  ===============================
  **What tokenizing keeps of an answer.**

  Without a policy that drops empty tokens, the tokens of an answer put together again are the
  whole answer, trimmed and in the same case: cutting loses nothing but the blanks around it.
-/
import PlanScaffold.Proofs.Answers
import PlanScaffold.Proofs.Text.Spaces

namespace PlanScaffold

open Text

/-! ### Words -/

theorem words_of_ne_nil {text : List Char} (htext : text ≠ []) : words text = text.splitOn ' ' :=
  if_neg htext

theorem words_eq_nil_iff {text : List Char} : words text = [] ↔ text = [] := by
  by_cases htext : text = []
  · exact iff_of_true (if_pos htext) htext
  · rw [words_of_ne_nil htext]
    exact iff_of_false (List.splitOn_ne_nil ' ' text) htext

theorem intercalate_words (text : List Char) : [' '].intercalate (words text) = text := by
  by_cases htext : text = []
  · subst htext
    rfl
  · rw [words_of_ne_nil htext, List.intercalate_splitOn]

theorem length_words {text : List Char} (htext : text ≠ []) :
    (words text).length = text.count ' ' + 1 := by
  rw [words_of_ne_nil htext]
  clear htext
  induction text with
  | nil => rfl
  | cons c text ih =>
    rw [List.splitOn_cons_eq_if_modifyHead, List.count_cons]
    split
    · rw [List.length_cons, ih]
    · rw [List.length_modifyHead, ih, Nat.add_zero]

/-- The pieces of a text are parts of it, without the character it was cut at. -/
theorem notMem_and_subset_of_mem_splitOn {a : Char} {text piece : List Char}
    (hpiece : piece ∈ text.splitOn a) : a ∉ piece ∧ piece ⊆ text := by
  induction text generalizing piece with
  | nil =>
    rw [List.mem_singleton.mp hpiece]
    exact ⟨List.not_mem_nil, List.Subset.refl []⟩
  | cons c text ih =>
    rw [List.splitOn_cons_eq_if_modifyHead] at hpiece
    have hlater : ∀ {piece}, piece ∈ text.splitOn a → a ∉ piece ∧ piece ⊆ c :: text := by
      intro piece hmem
      exact ⟨(ih hmem).1, List.subset_cons_of_subset c (ih hmem).2⟩
    split at hpiece
    · rcases List.mem_cons.mp hpiece with rfl | hmem
      · exact ⟨List.not_mem_nil, List.nil_subset _⟩
      · exact hlater hmem
    · next hc =>
      -- the character joins the first piece of the rest
      cases hsplit : text.splitOn a with
      | nil => exact (List.splitOn_ne_nil a text hsplit).elim
      | cons first pieces =>
        rw [hsplit, List.modifyHead_cons] at hpiece
        rw [hsplit] at ih hlater
        rcases List.mem_cons.mp hpiece with rfl | hmem
        · obtain ⟨hfirst, hsubset⟩ := ih List.mem_cons_self
          have ha : a ≠ c := by
            rintro rfl
            exact hc (beq_self_eq_true a)
          exact ⟨List.not_mem_cons_of_ne_of_not_mem ha hfirst, List.cons_subset_cons c hsubset⟩
        · exact hlater (List.mem_cons_of_mem first hmem)

theorem mem_splitOn_of_mem_words {text word : List Char} (hword : word ∈ words text) :
    word ∈ text.splitOn ' ' := by
  by_cases htext : text = []
  · simp [words_eq_nil_iff.mpr htext] at hword
  · rwa [words_of_ne_nil htext] at hword

theorem subset_of_mem_words {text word : List Char} (hword : word ∈ words text) : word ⊆ text :=
  (notMem_and_subset_of_mem_splitOn (mem_splitOn_of_mem_words hword)).2

theorem space_notMem_of_mem_words {text word : List Char} (hword : word ∈ words text) :
    ' ' ∉ word :=
  (notMem_and_subset_of_mem_splitOn (mem_splitOn_of_mem_words hword)).1

theorem EmptyTokens.mem_of_mem_select {policy : EmptyTokens} {pieces : List (List Char)}
    {piece : List Char} (hpiece : piece ∈ policy.select pieces) : piece ∈ pieces := by
  cases policy with
  | preserve => exact hpiece
  | collapse => exact (List.mem_filter.mp hpiece).1

/-! ### Empty words at an end -/

theorem head?_intercalate_of_empty {pieces : List (List Char)} (hfirst : pieces.head? = some []) :
    [' '].intercalate pieces = [] ∨ ([' '].intercalate pieces).head? = some ' ' := by
  rcases pieces with _ | ⟨piece, _ | ⟨next, rest⟩⟩
  · cases hfirst
  · cases hfirst
    exact .inl rfl
  · cases hfirst
    exact .inr rfl

theorem getLast?_intercalate_of_empty {pieces : List (List Char)}
    (hlast : pieces.getLast? = some []) :
    [' '].intercalate pieces = [] ∨ ([' '].intercalate pieces).getLast? = some ' ' := by
  induction pieces with
  | nil => cases hlast
  | cons piece pieces ih =>
    cases pieces with
    | nil =>
      cases hlast
      exact .inl rfl
    | cons next rest =>
      right
      rw [List.intercalate_cons_cons]
      rcases ih hlast with hempty | hspace
      · rw [hempty, List.append_nil, List.getLast?_append]
        rfl
      · rw [List.getLast?_append, hspace]
        rfl

theorem head?_words_trim_ne (text : List Char) : (words (trim text)).head? ≠ some [] := by
  intro hfirst
  rcases head?_intercalate_of_empty hfirst with hempty | hspace
  · rw [intercalate_words] at hempty
    rw [words_eq_nil_iff.mpr hempty] at hfirst
    cases hfirst
  · rw [intercalate_words] at hspace
    have hshown := isBlank_of_head?_trim hspace
    rw [isBlank_space] at hshown
    cases hshown

theorem getLast?_words_trim_ne (text : List Char) : (words (trim text)).getLast? ≠ some [] := by
  intro hlast
  rcases getLast?_intercalate_of_empty hlast with hempty | hspace
  · rw [intercalate_words] at hempty
    rw [words_eq_nil_iff.mpr hempty] at hlast
    cases hlast
  · rw [intercalate_words] at hspace
    have hshown := isBlank_of_getLast?_trim hspace
    rw [isBlank_space] at hshown
    cases hshown

/-! ### Tokens -/

def Casing.token (casing : Casing) (word : List Char) : String :=
  String.ofList (casing.onText word)

theorem Casing.token_eq_empty_iff {casing : Casing} {word : List Char} :
    casing.token word = "" ↔ word = [] := by
  rw [token, String.ofList_eq_empty_iff, onText_eq_nil_iff]

theorem Casing.map_token_ne_empty {casing : Casing} {word? : Option (List Char)}
    (hword : word? ≠ some []) : word?.map casing.token ≠ some "" := by
  intro htoken
  obtain ⟨word, rfl, hempty⟩ := Option.map_eq_some_iff.mp htoken
  exact hword (congrArg some (Casing.token_eq_empty_iff.mp hempty))

theorem tokenize_preserve (answer : String) (casing : Casing) :
    tokenize answer casing .preserve = (words (trim answer.toList)).map casing.token := rfl

/-- **Cutting an answer into tokens loses nothing.**  The tokens hold no space, and with single
    spaces between them they are the whole answer, trimmed and in the same case.  A blank answer
    has no token; any other begins and ends with a token that is not empty, and has one more than
    there are spaces in it. -/
theorem tokenize_preserve_lossless (answer : String) (casing : Casing) :
    (∀ token ∈ tokenize answer casing .preserve, ' ' ∉ token.toList) ∧
    " ".intercalate (tokenize answer casing .preserve) =
      casing.apply (String.ofList (trim answer.toList)) ∧
    (tokenize answer casing .preserve = [] ↔ ∀ c ∈ answer.toList, isBlank c = true) ∧
    ((∃ c ∈ answer.toList, isBlank c = false) →
      (tokenize answer casing .preserve).head? ≠ some "" ∧
      (tokenize answer casing .preserve).getLast? ≠ some "" ∧
      (tokenize answer casing .preserve).length = (trim answer.toList).count ' ' + 1) := by
  rw [tokenize_preserve]
  refine ⟨?_, ?_, ?_, ?_⟩
  · intro token htoken
    obtain ⟨word, hword, rfl⟩ := List.mem_map.mp htoken
    rw [Casing.token, String.toList_ofList, Casing.space_mem_onText_iff]
    exact space_notMem_of_mem_words hword
  · have hwords : ((words (trim answer.toList)).map casing.token).map String.toList =
        (words (trim answer.toList)).map casing.onText := by
      rw [List.map_map]
      apply List.map_congr_left
      intro word _
      exact String.toList_ofList
    apply String.toList_injective
    rw [String.toList_intercalate, hwords]
    show [' '].intercalate _ = _
    rw [← Casing.onText_intercalate, intercalate_words, Casing.apply, String.toList_ofList,
      String.toList_ofList]
  · rw [List.map_eq_nil_iff, words_eq_nil_iff, trim_eq_nil_iff]
  · rintro ⟨c, hc, hshown⟩
    have htrim : trim answer.toList ≠ [] := by
      intro hempty
      rw [trim_eq_nil_iff.mp hempty c hc] at hshown
      cases hshown
    refine ⟨?_, ?_, ?_⟩
    · rw [List.head?_map]
      exact Casing.map_token_ne_empty (head?_words_trim_ne _)
    · rw [List.getLast?_map]
      exact Casing.map_token_ne_empty (getLast?_words_trim_ne _)
    · rw [List.length_map, length_words htrim]

/-- A sigma is final before a space, and two spaces hold an empty token between them. -/
example : tokenize " ΟΔΟΣ  ΣΟΣ\t" .lower .preserve = ["οδος", "", "σος"] := by decide +kernel

end PlanScaffold
