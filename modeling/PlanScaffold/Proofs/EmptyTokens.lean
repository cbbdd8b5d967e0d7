/-
  PlanScaffold/Proofs/EmptyTokens.lean
  ====================================
  **What dropping empty tokens comes to.**

  The policy that drops empty tokens selects among the words of an answer before their case is
  changed.  It might as well select afterwards, because neither casing makes an empty token of a
  word, or a token of an empty one (`tokenize_collapse`).  So the two policies differ in nothing
  but the empty tokens: with both, the same prompts are shown, the same answers are used up
  and the same faults are met.
-/
import PlanScaffold.Proofs.Generate
import PlanScaffold.Proofs.Operations
import PlanScaffold.Proofs.Skeleton.Recovery
import PlanScaffold.Proofs.Tokens

namespace PlanScaffold

/-! ### Tokens -/

def withoutEmpty (tokens : List String) : List String := tokens.filter fun token => token ≠ ""

theorem empty_notMem_withoutEmpty (tokens : List String) : "" ∉ withoutEmpty tokens := by
  intro hempty
  have hkept := (List.mem_filter.mp hempty).2
  simp at hkept

theorem withoutEmpty_eq_self_iff {tokens : List String} :
    withoutEmpty tokens = tokens ↔ "" ∉ tokens := by
  unfold withoutEmpty
  rw [List.filter_eq_self]
  constructor
  · intro hkept hempty
    have hne := hkept "" hempty
    simp at hne
  · intro hnone token htoken
    rw [decide_eq_true_eq]
    rintro rfl
    exact hnone htoken

/-- Dropping the empty words of an answer drops its empty tokens, and no others. -/
theorem tokenize_collapse (answer : String) (casing : Casing) :
    tokenize answer casing .collapse = withoutEmpty (tokenize answer casing .preserve) := by
  have hselected : ∀ word : List Char, (!word.isEmpty) = decide (casing.token word ≠ "") := by
    intro word
    rw [Bool.eq_iff_iff, decide_eq_true_eq, Ne, Casing.token_eq_empty_iff]
    simp
  rw [tokenize_preserve, withoutEmpty, List.filter_map]
  show (List.filter _ _).map casing.token = _
  congr 2
  funext word
  exact hselected word

/-! ### Descriptions -/

namespace Answers

/-- The description without the empty tokens in its lists. -/
def withoutEmptyTokens (answers : Answers) : Answers :=
  { answers with
    types := withoutEmpty answers.types
    predicates := withoutEmpty answers.predicates
    actions := withoutEmpty answers.actions }

theorem withoutEmptyTokens_eq_self_iff {answers : Answers} :
    answers.withoutEmptyTokens = answers ↔
      "" ∉ answers.types ∧ "" ∉ answers.predicates ∧ "" ∉ answers.actions := by
  rw [← withoutEmpty_eq_self_iff, ← withoutEmpty_eq_self_iff, ← withoutEmpty_eq_self_iff]
  obtain ⟨name, types, predicates, actions⟩ := answers
  simp [withoutEmptyTokens]

theorem LineFree.withoutEmptyTokens {answers : Answers} (hfree : answers.LineFree) :
    answers.withoutEmptyTokens.LineFree where
  name := hfree.name
  types := fun token htoken => hfree.types token (List.mem_filter.mp htoken).1
  predicates := fun token htoken => hfree.predicates token (List.mem_filter.mp htoken).1
  actions := fun token htoken => hfree.actions token (List.mem_filter.mp htoken).1

theorem render_withoutEmptyTokens_iff {answers : Answers} (hfree : answers.LineFree) :
    Skeleton.render answers.withoutEmptyTokens = Skeleton.render answers ↔
      "" ∉ answers.types ∧ "" ∉ answers.predicates ∧ "" ∉ answers.actions := by
  rw [← withoutEmptyTokens_eq_self_iff]
  constructor
  · intro hrender
    have hlines := eq_of_textOf_eq (fun _ => Skeleton.oneLine_of_mem_lines hfree.withoutEmptyTokens)
      (fun _ => Skeleton.oneLine_of_mem_lines hfree) hrender
    exact Skeleton.lines_injective hlines
  · intro hsame
    rw [hsame]

end Answers

/-! ### Collecting answers -/

section Prompters

variable {π α β : Type} [Prompter π]

/-- The same end, but with another value if there is one. -/
def instead (change : α → α) (ended : Except Fault α × π) : Except Fault α × π :=
  (ended.1.map change, ended.2)

theorem outcome_bind_instead {first first' : Program α} {rest rest' : α → Program β}
    {change : α → α} {change' : β → β} {prompter : π}
    (hfirst : first'.outcome prompter = instead change (first.outcome prompter))
    (hrest : ∀ value (prompter : π),
      (rest' (change value)).outcome prompter = instead change' ((rest value).outcome prompter)) :
    (first' >>= rest').outcome prompter = instead change' ((first >>= rest).outcome prompter) := by
  rw [Program.outcome_bind, Program.outcome_bind, hfirst]
  rcases first.outcome prompter with ⟨fault | value, after⟩
  · rfl
  · exact hrest value after

theorem outcome_collectTokens_collapse (prompt : String) (casing : Casing) (prompter : π) :
    (collectTokens prompt casing .collapse : Program (List String)).outcome prompter =
      instead withoutEmpty
        ((collectTokens prompt casing .preserve : Program (List String)).outcome prompter) := by
  rw [outcome_collectTokens, outcome_collectTokens, instead]
  rcases Prompter.ask prompter prompt with ⟨fault | answer, after⟩
  · rfl
  · show (Except.ok (tokenize answer casing .collapse), after) = _
    rw [tokenize_collapse]
    rfl

theorem outcome_collectAnswers_collapse (prompter : π) :
    (collectAnswers .collapse : Program Answers).outcome prompter =
      instead Answers.withoutEmptyTokens
        ((collectAnswers .preserve : Program Answers).outcome prompter) := by
  have hname : (collectName : Program EntityName).outcome prompter =
      instead id ((collectName : Program EntityName).outcome prompter) := by
    rw [instead]
    rcases (collectName : Program EntityName).outcome prompter with ⟨_ | _, _⟩ <;> rfl
  unfold collectAnswers
  apply outcome_bind_instead hname
  intro name prompter
  apply outcome_bind_instead (outcome_collectTokens_collapse _ _ _)
  intro types prompter
  apply outcome_bind_instead (outcome_collectTokens_collapse _ _ _)
  intro predicates prompter
  apply outcome_bind_instead (outcome_collectTokens_collapse _ _ _)
  intro actions prompter
  rfl

end Prompters

/-! ### In a session -/

variable {σ π : Type} [SkeletonStore σ] [Prompter π]

theorem within_collectAnswers (policy : EmptyTokens) (session : Session σ π) :
    ∃ log, session.within (collectAnswers policy) =
      (((collectAnswers policy : Program Answers).outcome session.prompter).1,
        { session with
          prompter := ((collectAnswers policy : Program Answers).outcome session.prompter).2
          log := log }) := by
  obtain ⟨log, hwithin⟩ :=
    Session.within_runIn (collectAnswers policy : Program Answers) session
  rw [Program.runIn_collectAnswers, Program.effect_of_sparesStore
    (Program.sparesStore_collectAnswers policy)] at hwithin
  exact ⟨log, hwithin⟩

/-- **Dropping empty tokens changes nothing else.**  From the same session, both policies show the
    same prompts and use the same answers; they fail with the same fault, or both succeed.  Then the
    one description is the other one without its empty tokens, and the two skeletons are the same
    exactly when there were none. -/
theorem collectAnswers_collapse (session : Session σ π) :
    (session.within (collectAnswers .collapse)).1 =
      (session.within (collectAnswers .preserve)).1.map Answers.withoutEmptyTokens ∧
    (session.within (collectAnswers .collapse)).2.prompter =
      (session.within (collectAnswers .preserve)).2.prompter ∧
    (session.within (collectAnswers .collapse)).2.store = session.store ∧
    (session.within (collectAnswers .preserve)).2.store = session.store ∧
    ∀ collapsed preserved, (session.within (collectAnswers .collapse)).1 = .ok collapsed →
      (session.within (collectAnswers .preserve)).1 = .ok preserved →
      collapsed.name = preserved.name ∧
      collapsed.types = preserved.types.filter (fun token => token ≠ "") ∧
      collapsed.predicates = preserved.predicates.filter (fun token => token ≠ "") ∧
      collapsed.actions = preserved.actions.filter (fun token => token ≠ "") ∧
      ("" ∉ collapsed.types ∧ "" ∉ collapsed.predicates ∧ "" ∉ collapsed.actions) ∧
      (preserved.LineFree → (Skeleton.render collapsed = Skeleton.render preserved ↔
        "" ∉ preserved.types ∧ "" ∉ preserved.predicates ∧ "" ∉ preserved.actions)) := by
  obtain ⟨log, hcollapse⟩ := within_collectAnswers .collapse session
  obtain ⟨log', hpreserve⟩ := within_collectAnswers .preserve session
  rw [hcollapse, hpreserve, outcome_collectAnswers_collapse]
  refine ⟨rfl, rfl, rfl, rfl, ?_⟩
  intro collapsed preserved hcollapsed hpreserved
  dsimp only [instead] at hcollapsed hpreserved
  rw [hpreserved] at hcollapsed
  cases hcollapsed
  refine ⟨rfl, rfl, rfl, rfl, ⟨?_, ?_, ?_⟩, ?_⟩
  · exact empty_notMem_withoutEmpty _
  · exact empty_notMem_withoutEmpty _
  · exact empty_notMem_withoutEmpty _
  · exact Answers.render_withoutEmptyTokens_iff

end PlanScaffold
