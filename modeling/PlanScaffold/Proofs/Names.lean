/-
  PlanScaffold/Proofs/Names.lean
  ==============================
  **The normal form of a name.**

  A name depends on the trimmed part of its answer only, and is that part with its first character
  in upper case.  The first character of an uppercase form is its own uppercase form and no
  blank, so a name that is typed again is the same name (`nameIn_text`).
-/
import PlanScaffold.Generate
import PlanScaffold.Proofs.Answers
import PlanScaffold.Proofs.Text.Settling

namespace PlanScaffold

open Text

/-! ### Names in trimmed texts -/

namespace EntityName

theorem eq_of_text_eq {name other : EntityName} (htext : name.text = other.text) :
    name = other := by
  cases name
  cases other
  cases htext
  rfl

theorem ofAnswer?_congr {answer other : String} (htrim : trim answer.toList = trim other.toList) :
    ofAnswer? answer = ofAnswer? other := by
  unfold ofAnswer?
  rw [htrim]

theorem exists_ofAnswer?_of_trim {answer : String} {first : Char} {rest : List Char}
    (htrim : trim answer.toList = first :: rest) :
    ∃ name, ofAnswer? answer = some name ∧ name.text.toList = uppercase first ++ rest := by
  unfold ofAnswer?
  split
  · next hempty =>
    rw [htrim] at hempty
    cases hempty
  · next c others hfound =>
    rw [htrim] at hfound
    cases hfound
    exact ⟨_, rfl, String.toList_ofList⟩

end EntityName

/-- A trimmed text is trimmed also with its first character in upper case. -/
theorem Trimmed.uppercase_append {first : Char} {rest : List Char}
    (htext : Trimmed (first :: rest)) : Trimmed (uppercase first ++ rest) := by
  have hshown : ∀ d ∈ uppercase first, isBlank d = false :=
    (keepsBlanks_uppercase first).shown (htext.first first rfl)
  constructor
  · intro c hc
    rw [List.head?_append_of_ne_nil _ (uppercase_ne_nil first)] at hc
    exact hshown c (List.mem_of_mem_head? hc)
  · intro c hc
    cases rest with
    | nil =>
      rw [List.append_nil] at hc
      exact hshown c (List.mem_of_getLast? hc)
    | cons next rest =>
      apply htext.last
      rw [List.getLast?_append_of_ne_nil _ (List.cons_ne_nil _ _)] at hc
      rw [List.getLast?_cons_cons]
      exact hc

/-! ### Names in answers -/

theorem nameIn_of_some {answer : String} {name : EntityName}
    (hname : EntityName.ofAnswer? answer = some name) : nameIn answer = .ok name := by
  rw [nameIn, hname]

theorem nameIn_eq_error_iff {answer : String} :
    nameIn answer = .error (.emptyInput "Name") ↔ ∀ c ∈ answer.toList, isBlank c = true := by
  rw [← EntityName.ofAnswer?_eq_none_iff, nameIn]
  cases EntityName.ofAnswer? answer <;> simp

theorem nameIn_congr {answer other : String} (htrim : trim answer.toList = trim other.toList) :
    nameIn answer = nameIn other := by
  rw [nameIn, nameIn, EntityName.ofAnswer?_congr htrim]

/-- A name that is typed again is the same name. -/
theorem nameIn_text {name : EntityName} {first : Char} {rest : List Char}
    (htrimmed : Trimmed (first :: rest)) (hname : name.text.toList = uppercase first ++ rest) :
    nameIn name.text = .ok name := by
  have htrim : trim name.text.toList = uppercase first ++ rest := by
    rw [hname]
    exact htrimmed.uppercase_append.trim_eq
  cases hupper : uppercase first with
  | nil => exact (uppercase_ne_nil first hupper).elim
  | cons d more =>
    have hd : uppercase d = [d] := by
      apply uppercase_of_mem_uppercase (c := first)
      rw [hupper]
      exact List.mem_cons_self
    rw [hupper, List.cons_append] at htrim
    obtain ⟨again, hagain, htext⟩ := EntityName.exists_ofAnswer?_of_trim htrim
    have hsame : again = name := by
      apply EntityName.eq_of_text_eq
      apply String.toList_injective
      rw [htext, hname, hd, hupper]
      rfl
    rw [nameIn_of_some hagain, hsame]

/-- **Names have a normal form.**  An answer holds no name exactly when it is blank.  Any other is
    a text that neither begins nor ends with a blank, between blanks; its name is this text with the
    first character in upper case, which is not empty, neither begins nor ends with a blank, and
    is its own name.  Further blanks around the answer change nothing. -/
theorem nameIn_normal_form (answer : String) :
    (nameIn answer = .error (.emptyInput "Name") ↔ ∀ c ∈ answer.toList, isBlank c = true) ∧
    ((∃ c ∈ answer.toList, isBlank c = false) →
      ∃ name before first rest after,
        nameIn answer = .ok name ∧
        answer.toList = before ++ (first :: rest ++ after) ∧
        (∀ c ∈ before, isBlank c = true) ∧ (∀ c ∈ after, isBlank c = true) ∧
        Trimmed (first :: rest) ∧
        name.text.toList = uppercase first ++ rest ∧
        name.text ≠ "" ∧ Trimmed name.text.toList ∧
        nameIn name.text = .ok name) ∧
    ∀ before after : String, (∀ c ∈ before.toList, isBlank c = true) →
      (∀ c ∈ after.toList, isBlank c = true) →
      nameIn (before ++ answer ++ after) = nameIn answer := by
  refine ⟨nameIn_eq_error_iff, ?_, ?_⟩
  · rintro ⟨c, hc, hshown⟩
    obtain ⟨before, after, hanswer, hbefore, hafter⟩ := exists_blanks_around_trim answer.toList
    cases htrim : trim answer.toList with
    | nil =>
      rw [trim_eq_nil_iff.mp htrim c hc] at hshown
      cases hshown
    | cons first rest =>
      obtain ⟨name, hname, htext⟩ := EntityName.exists_ofAnswer?_of_trim htrim
      have htrimmed : Trimmed (first :: rest) := by
        rw [← htrim]
        exact trimmed_trim _
      rw [htrim] at hanswer
      refine ⟨name, before, first, rest, after, nameIn_of_some hname, hanswer, hbefore, hafter,
        htrimmed, htext, name.text_ne, ?_, nameIn_text htrimmed htext⟩
      rw [htext]
      exact htrimmed.uppercase_append
  · intro before after hbefore hafter
    apply nameIn_congr
    rw [String.toList_append, String.toList_append, List.append_assoc]
    exact trim_append_blanks hbefore hafter _

/-- The first character of this name becomes two, of which the first has no case. -/
theorem nameIn_normal_form_expanding :
    (∃ c ∈ "ŉo x".toList, isBlank c = false) ∧ (∀ c ∈ "\t".toList, isBlank c = true) ∧
    (∀ c ∈ "\u3000 ".toList, isBlank c = true) ∧
    (∃ name, nameIn "ŉo x" = .ok name ∧ nameIn name.text = .ok name) ∧
    nameIn ("\t" ++ "ŉo x" ++ "\u3000 ") = nameIn "ŉo x" := by
  have hshown : ∃ c ∈ "ŉo x".toList, isBlank c = false := ⟨'o', by decide, by decide⟩
  have hbefore : ∀ c ∈ "\t".toList, isBlank c = true := List.all_eq_true.mp (by decide)
  have hafter : ∀ c ∈ "\u3000 ".toList, isBlank c = true := List.all_eq_true.mp (by decide)
  obtain ⟨-, hname, hpadded⟩ := nameIn_normal_form "ŉo x"
  obtain ⟨name, _, _, _, _, hok, _, _, _, _, _, _, _, hagain⟩ := hname hshown
  exact ⟨hshown, hbefore, hafter, ⟨name, hok, hagain⟩, hpadded "\t" "\u3000 " hbefore hafter⟩

end PlanScaffold
