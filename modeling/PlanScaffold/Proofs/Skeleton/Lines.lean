/-
  PlanScaffold/Proofs/Skeleton/Lines.lean
  =======================================
  **Texts and their lines.**

  A line feed ends a line and stands nowhere within one.  While this holds, a text determines its
  lines (`eq_of_textOf_eq`), and the lines of a skeleton keep to it when its answers do
  (`Skeleton.oneLine_of_mem_lines`).
-/
import PlanScaffold.Skeleton

namespace PlanScaffold

/-- Two lists agree up to the first occurrence of a mark, and behind it. -/
theorem eq_of_append_cons_eq {α : Type} {mark : α} {first second restFirst restSecond : List α}
    (hfirst : mark ∉ first) (hsecond : mark ∉ second)
    (heq : first ++ mark :: restFirst = second ++ mark :: restSecond) :
    first = second ∧ restFirst = restSecond := by
  rcases List.append_eq_append_iff.mp heq with ⟨more, rfl, hrest⟩ | ⟨more, rfl, hrest⟩
  · cases more with
    | nil => exact ⟨(List.append_nil first).symm, (List.cons.inj hrest).2⟩
    | cons head tail =>
      obtain ⟨rfl, -⟩ := List.cons.inj hrest
      simp at hsecond
  · cases more with
    | nil => exact ⟨List.append_nil second, (List.cons.inj hrest).2.symm⟩
    | cons head tail =>
      obtain ⟨rfl, -⟩ := List.cons.inj hrest
      simp at hfirst

/-- No line feed stands within the text. -/
def OneLine (text : String) : Prop := '\n' ∉ text.toList

instance (text : String) : Decidable (OneLine text) := inferInstanceAs (Decidable (¬_))

@[simp] theorem oneLine_append {first second : String} :
    OneLine (first ++ second) ↔ OneLine first ∧ OneLine second := by
  simp [OneLine]

theorem textOf_cons (line : String) (lines : List String) :
    (textOf (line :: lines)).toList = line.toList ++ '\n' :: (textOf lines).toList := by
  simp [textOf]

theorem eq_of_textOf_eq {first second : List String} (hfirst : ∀ line ∈ first, OneLine line)
    (hsecond : ∀ line ∈ second, OneLine line) (heq : textOf first = textOf second) :
    first = second := by
  induction first generalizing second with
  | nil =>
    cases second with
    | nil => rfl
    | cons line rest =>
      have hlists := congrArg String.toList heq
      rw [textOf_cons] at hlists
      simp [textOf] at hlists
  | cons line rest ih =>
    cases second with
    | nil =>
      have hlists := congrArg String.toList heq
      rw [textOf_cons] at hlists
      simp [textOf] at hlists
    | cons other others =>
      rw [List.forall_mem_cons] at hfirst hsecond
      have hlists := congrArg String.toList heq
      rw [textOf_cons, textOf_cons] at hlists
      obtain ⟨hline, hrest⟩ := eq_of_append_cons_eq hfirst.1 hsecond.1 hlists
      rw [String.toList_inj.mp hline, ih hfirst.2 hsecond.2 (String.toList_inj.mp hrest)]

/-! ### Blocks of lines -/

@[simp] theorem spaced_nil : spaced [] = [] := rfl

@[simp] theorem spaced_singleton (block : List String) : spaced [block] = block := by
  simp [spaced]

@[simp] theorem spaced_cons_cons (block next : List String) (blocks : List (List String)) :
    spaced (block :: next :: blocks) = block ++ "" :: spaced (next :: blocks) := by
  simp [spaced]

theorem eq_empty_or_mem_of_mem_spaced {line : String} {blocks : List (List String)}
    (hline : line ∈ spaced blocks) : line = "" ∨ ∃ block ∈ blocks, line ∈ block := by
  induction blocks with
  | nil => simp at hline
  | cons block rest ih =>
    cases rest with
    | nil =>
      rw [spaced_singleton] at hline
      exact .inr ⟨block, List.mem_singleton_self block, hline⟩
    | cons next rest =>
      rw [spaced_cons_cons, List.mem_append, List.mem_cons] at hline
      rcases hline with hblock | hempty | hrest
      · exact .inr ⟨block, List.mem_cons_self, hblock⟩
      · exact .inl hempty
      · rcases ih hrest with hempty | ⟨found, hfound, hline⟩
        · exact .inl hempty
        · exact .inr ⟨found, List.mem_cons_of_mem block hfound, hline⟩

theorem oneLine_of_mem_spaced {blocks : List (List String)}
    (hblocks : ∀ block ∈ blocks, ∀ line ∈ block, OneLine line) {line : String}
    (hline : line ∈ spaced blocks) : OneLine line := by
  rcases eq_empty_or_mem_of_mem_spaced hline with rfl | ⟨block, hblock, hline⟩
  · decide
  · exact hblocks block hblock line hline

/-! ### The lines of a skeleton -/

/-- No line feed stands in the name or in any token. -/
structure Answers.LineFree (answers : Answers) : Prop where
  name : OneLine answers.name.text
  types : ∀ token ∈ answers.types, OneLine token
  predicates : ∀ token ∈ answers.predicates, OneLine token
  actions : ∀ token ∈ answers.actions, OneLine token

namespace Skeleton

theorem oneLine_of_mem_stubs {stub : String → List String} {tokens : List String}
    (hstub : ∀ token, OneLine token → ∀ line ∈ stub token, OneLine line)
    (htokens : ∀ token ∈ tokens, OneLine token) {line : String}
    (hline : line ∈ spaced (tokens.map stub)) : OneLine line := by
  refine oneLine_of_mem_spaced (fun block hblock => ?_) hline
  obtain ⟨token, htoken, rfl⟩ := List.mem_map.mp hblock
  exact hstub token (htokens token htoken)

theorem oneLine_of_mem_predicateStub {token : String} (htoken : OneLine token) :
    ∀ line ∈ predicateStub token, OneLine line := by
  have htemplate : OneLine "    @predicate(...)" ∧ OneLine "    def " ∧ OneLine "(self):" ∧
      OneLine "        \"\"\"Complete the method signature\"\"\"" := by decide
  simp [predicateStub, htoken, htemplate]

theorem oneLine_of_mem_actionStub {token : String} (htoken : OneLine token) :
    ∀ line ∈ actionStub token, OneLine line := by
  have htemplate : OneLine "    @action(...)" ∧ OneLine "    def " ∧ OneLine "(self):" ∧
      OneLine "        \"\"\"This should be a pass\"\"\"" ∧
      OneLine "        precond: list = None  # to fill in" ∧
      OneLine "        effect: list = None  # to fill in" ∧
      OneLine "        return precond, effect" := by decide
  simp [actionStub, htoken, htemplate]

theorem oneLine_of_mem_typeDeclarations {types : List String}
    (htypes : ∀ token ∈ types, OneLine token) {line : String}
    (hline : line ∈ typeDeclarations types) : OneLine line := by
  have htemplate : OneLine "    " ∧ OneLine " = create_type(\"" ∧ OneLine "\")" := by decide
  obtain ⟨token, htoken, rfl⟩ := List.mem_map.mp hline
  simp [typeDeclaration, htypes token htoken, htemplate]

theorem oneLine_of_mem_headers {name : EntityName} (hname : OneLine name.text) {line : String}
    (hline : line ∈ domainHeader name ++ problemHeader name) : OneLine line := by
  have htemplate : OneLine "from py2pddl import Domain, create_type, create_objs" ∧
      OneLine "from py2pddl import predicate, action, goal, init" ∧ OneLine "" ∧
      OneLine "class " ∧ OneLine "Domain(Domain):" ∧ OneLine "Problem(" ∧ OneLine "Domain):" := by
    decide
  revert line
  simp [domainHeader, problemHeader, hname, htemplate]

theorem oneLine_of_mem_lines {answers : Answers} (hfree : answers.LineFree) {line : String}
    (hline : line ∈ lines answers) : OneLine line := by
  refine oneLine_of_mem_spaced (fun block hblock line hline => ?_) hline
  have hheaders : ∀ line ∈ domainHeader answers.name ++ problemHeader answers.name, OneLine line :=
    fun _ => oneLine_of_mem_headers hfree.name
  simp only [sections, List.mem_cons, List.not_mem_nil, or_false] at hblock
  rcases hblock with rfl | rfl | rfl | rfl | rfl | rfl
  · exact hheaders line (List.mem_append_left _ hline)
  · exact oneLine_of_mem_typeDeclarations hfree.types hline
  · exact oneLine_of_mem_stubs (fun _ => oneLine_of_mem_predicateStub) hfree.predicates hline
  · exact oneLine_of_mem_stubs (fun _ => oneLine_of_mem_actionStub) hfree.actions hline
  · exact hheaders line (List.mem_append_right _ hline)
  · have hstubs : ∀ line ∈ problemStubs, OneLine line := by decide
    exact hstubs line hline

end Skeleton

end PlanScaffold
