/-
  PlanScaffold/Proofs/Skeleton/Recovery.lean
  ==========================================
  **A skeleton determines its answers.**

  Read from its start, a skeleton gives back one section after the other.  What each section needs
  for this is that its end can be told from its own text.  The head of the domain class has a
  fixed number of lines.  The declarations of types end at the first empty line, since none of
  them is empty.  Stubs of one kind begin with a line that is the same for all of them, and what
  follows the last stub begins with another line (`IsStub.eq_of_append_eq`); so it does not
  matter what stands in the tokens.
-/
import Mathlib.Logic.Function.Basic
import PlanScaffold.Proofs.Skeleton.Lines

namespace PlanScaffold.Skeleton

/-! ### Stubs -/

/-- All stubs of a kind begin with the same line and have the same number of lines, and each
    determines its token. -/
structure IsStub (mark : String) (stub : String → List String) : Prop where
  head : ∀ token, (stub token).head? = some mark
  named : mark ≠ ""
  length : ∀ token other, (stub token).length = (stub other).length
  injective : Function.Injective stub

theorem isStub_predicateStub : IsStub "    @predicate(...)" predicateStub where
  head _ := rfl
  named := by decide
  length _ _ := rfl
  injective := by
    intro token other heq
    simpa [predicateStub] using heq

theorem isStub_actionStub : IsStub "    @action(...)" actionStub where
  head _ := rfl
  named := by decide
  length _ _ := rfl
  injective := by
    intro token other heq
    simpa [actionStub] using heq

theorem stubs_cons_append (stub : String → List String) (token : String) (tokens rest : List String) :
    spaced ((token :: tokens).map stub) ++ "" :: rest =
      stub token ++ "" :: if tokens = [] then rest else spaced (tokens.map stub) ++ "" :: rest := by
  cases tokens with
  | nil => simp
  | cons next tokens => simp

section Stubs

variable {mark : String} {stub : String → List String}

theorem IsStub.head?_append (hstub : IsStub mark stub) (tokens rest : List String) :
    (spaced (tokens.map stub) ++ "" :: rest).head? = some (if tokens = [] then "" else mark) := by
  cases tokens with
  | nil => rfl
  | cons token tokens =>
    rw [stubs_cons_append, List.head?_append, hstub.head token]
    rfl

/-- Stubs determine their tokens, and where they end. -/
theorem IsStub.eq_of_append_eq (hstub : IsStub mark stub)
    {first second restFirst restSecond : List String}
    (hfirst : restFirst.head? ≠ some mark) (hsecond : restSecond.head? ≠ some mark)
    (heq : spaced (first.map stub) ++ "" :: restFirst =
      spaced (second.map stub) ++ "" :: restSecond) :
    first = second ∧ restFirst = restSecond := by
  induction first generalizing second with
  | nil =>
    cases second with
    | nil => exact ⟨rfl, (List.cons.inj heq).2⟩
    | cons other others =>
      have hhead := congrArg List.head? heq
      rw [hstub.head?_append, hstub.head?_append] at hhead
      exact (hstub.named (Option.some.inj hhead).symm).elim
  | cons token tokens ih =>
    cases second with
    | nil =>
      have hhead := congrArg List.head? heq
      rw [hstub.head?_append, hstub.head?_append] at hhead
      exact (hstub.named (Option.some.inj hhead)).elim
    | cons other others =>
      rw [stubs_cons_append, stubs_cons_append] at heq
      obtain ⟨hsame, hafter⟩ := List.append_inj heq (hstub.length token other)
      obtain rfl := hstub.injective hsame
      have hafter := (List.cons.inj hafter).2
      have hhead := congrArg List.head? hafter
      -- where one list of stubs goes on with a mark, the other one does too
      by_cases htokens : tokens = []
      · by_cases hothers : others = []
        · rw [if_pos htokens, if_pos hothers] at hafter
          exact ⟨by rw [htokens, hothers], hafter⟩
        · rw [if_pos htokens, if_neg hothers, hstub.head?_append, if_neg hothers] at hhead
          exact (hfirst hhead).elim
      · by_cases hothers : others = []
        · rw [if_neg htokens, if_pos hothers, hstub.head?_append, if_neg htokens] at hhead
          exact (hsecond hhead.symm).elim
        · rw [if_neg htokens, if_neg hothers] at hafter
          obtain ⟨rfl, hrest⟩ := ih hafter
          exact ⟨rfl, hrest⟩

end Stubs

/-! ### Types and headers -/

theorem typeDeclaration_injective : Function.Injective typeDeclaration := by
  intro token other heq
  have hlists := congrArg String.toList heq
  simp only [typeDeclaration, String.toList_append, List.append_assoc] at hlists
  have hbody := List.append_cancel_left hlists
  -- a token is half as long as what varies of its line
  have hlength : token.toList.length = other.toList.length := by
    have hlengths := congrArg List.length hbody
    simp only [List.length_append] at hlengths
    omega
  exact String.toList_inj.mp (List.append_inj hbody hlength).1

theorem empty_notMem_typeDeclarations (types : List String) : "" ∉ typeDeclarations types := by
  intro hmem
  obtain ⟨token, -, hempty⟩ := List.mem_map.mp hmem
  simp [typeDeclaration] at hempty

theorem eq_of_typeDeclarations_append_eq {first second restFirst restSecond : List String}
    (heq : typeDeclarations first ++ "" :: restFirst =
      typeDeclarations second ++ "" :: restSecond) :
    first = second ∧ restFirst = restSecond := by
  obtain ⟨hsame, hrest⟩ := eq_of_append_cons_eq (empty_notMem_typeDeclarations first)
    (empty_notMem_typeDeclarations second) heq
  exact ⟨(List.map_inj_right fun _ _ hline => typeDeclaration_injective hline).mp hsame, hrest⟩

theorem eq_of_domainHeader_append_eq {first second : EntityName}
    {restFirst restSecond : List String}
    (heq : domainHeader first ++ restFirst = domainHeader second ++ restSecond) :
    first = second ∧ restFirst = restSecond := by
  obtain ⟨hsame, hrest⟩ := List.append_inj heq rfl
  have htext : first.text = second.text := by simpa [domainHeader] using hsame
  cases first
  cases second
  cases htext
  exact ⟨rfl, hrest⟩

/-! ### The whole -/

theorem lines_eq (answers : Answers) :
    lines answers =
      domainHeader answers.name ++ "" ::
        (typeDeclarations answers.types ++ "" ::
          (predicateStubs answers.predicates ++ "" ::
            (actionStubs answers.actions ++ "" ::
              (problemHeader answers.name ++ "" :: problemStubs)))) := by
  simp [lines, sections]

/-- The lines of a skeleton determine its answers, whatever stands in the tokens. -/
theorem lines_injective : Function.Injective lines := by
  intro first second heq
  rw [lines_eq, lines_eq] at heq
  obtain ⟨hname, heq⟩ := eq_of_domainHeader_append_eq heq
  obtain ⟨htypes, heq⟩ := eq_of_typeDeclarations_append_eq (List.cons.inj heq).2
  have hactionStubs : ∀ tokens rest : List String,
      (actionStubs tokens ++ "" :: rest).head? ≠ some "    @predicate(...)" := by
    intro tokens rest
    rw [actionStubs, isStub_actionStub.head?_append]
    split <;> simp
  obtain ⟨hpredicates, heq⟩ := isStub_predicateStub.eq_of_append_eq (hactionStubs _ _)
    (hactionStubs _ _) heq
  have hproblemHeader : ∀ (name : EntityName) (rest : List String),
      (problemHeader name ++ rest).head? ≠ some "    @action(...)" := by
    intro name rest
    simp [problemHeader]
  obtain ⟨hactions, -⟩ := isStub_actionStub.eq_of_append_eq (hproblemHeader _ _)
    (hproblemHeader _ _) heq
  cases first
  cases second
  cases hname
  cases htypes
  cases hpredicates
  cases hactions
  rfl

/-- **A skeleton determines its answers**: the name and the three lists, with their order,
    repetitions and empty tokens, also where tokens look like parts of a skeleton.  Only line feeds
    must not stand in them. -/
theorem render_eq_render_iff {first second : Answers} (hfirst : first.LineFree)
    (hsecond : second.LineFree) : render first = render second ↔ first = second := by
  constructor
  · intro heq
    have hlines := eq_of_textOf_eq (fun _ => oneLine_of_mem_lines hfirst)
      (fun _ => oneLine_of_mem_lines hsecond) heq
    exact lines_injective hlines
  · rintro rfl
    rfl

/-- A token that looks like the stub of an action is not taken for one. -/
theorem render_ne_render_imitation :
    render ⟨⟨"Rocket", by decide⟩, ["", ""], ["at", "    @action(...)"], [""]⟩ ≠
      render ⟨⟨"Rocket", by decide⟩, [""], ["at"], ["    @action(...)", ""]⟩ := by
  have hfirst : Answers.LineFree
      ⟨⟨"Rocket", by decide⟩, ["", ""], ["at", "    @action(...)"], [""]⟩ :=
    ⟨by decide, by decide, by decide, by decide⟩
  have hsecond : Answers.LineFree
      ⟨⟨"Rocket", by decide⟩, [""], ["at"], ["    @action(...)", ""]⟩ :=
    ⟨by decide, by decide, by decide, by decide⟩
  exact (render_eq_render_iff hfirst hsecond).not.mpr (by decide)

end PlanScaffold.Skeleton
