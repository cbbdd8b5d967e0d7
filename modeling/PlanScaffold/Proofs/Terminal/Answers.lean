/-
  PlanScaffold/Proofs/Terminal/Answers.lean
  =========================================
  **The four answers in an input.**

  An input either gives a complete description, by its first four lines, or there is a first prompt
  that it does not answer.  Which of the two it is, and which description, can be told from the
  input; the terminal and the collecting of answers come to the same.
-/
import PlanScaffold.Proofs.Answers
import PlanScaffold.Proofs.Generate
import PlanScaffold.Proofs.Terminal.Lines

namespace PlanScaffold

/-- The prompt with this number gets what it asks for: a line of text, which the first prompt does
    not take if it is blank. -/
def Replied (input : Bytes) (number : Nat) : Prop :=
  ∃ answer, reply? input number = some answer ∧
    (number = 0 → ∃ c ∈ answer.toList, Text.isBlank c = false)

/-- The prompt with this number is the first one that does not get what it asks for. -/
structure FailsAt (input : Bytes) (number : Nat) : Prop where
  asked : number < prompts.length
  earlier : ∀ earlier, earlier < number → Replied input earlier
  fails : ¬Replied input number

/-- The first four lines of the input give this description. -/
structure Answers.GivenBy (policy : EmptyTokens) (input : Bytes) (answers : Answers) : Prop where
  name : ∃ answer, reply? input 0 = some answer ∧ EntityName.ofAnswer? answer = some answers.name
  types : ∃ answer, reply? input 1 = some answer ∧
    tokenize answer .title policy = answers.types
  predicates : ∃ answer, reply? input 2 = some answer ∧
    tokenize answer .lower policy = answers.predicates
  actions : ∃ answer, reply? input 3 = some answer ∧
    tokenize answer .lower policy = answers.actions

variable {input : Bytes} {policy : EmptyTokens}

/-! ### There is only one way -/

theorem FailsAt.unique {number other : Nat} (hnumber : FailsAt input number)
    (hother : FailsAt input other) : number = other := by
  rcases Nat.lt_trichotomy number other with hless | hsame | hmore
  · exact (hnumber.fails (hother.earlier number hless)).elim
  · exact hsame
  · exact (hother.fails (hnumber.earlier other hmore)).elim

theorem Answers.GivenBy.unique {answers other : Answers} (hanswers : answers.GivenBy policy input)
    (hother : other.GivenBy policy input) : answers = other := by
  have hsame : ∀ {α : Type} {number : Nat} {read : String → α} {first second : α},
      (∃ answer, reply? input number = some answer ∧ read answer = first) →
      (∃ answer, reply? input number = some answer ∧ read answer = second) →
      first = second := by
    rintro α number read first second ⟨answer, hanswer, rfl⟩ ⟨_, hanswer', rfl⟩
    rw [hanswer] at hanswer'
    cases hanswer'
    rfl
  have hname := Option.some.inj (hsame hanswers.name hother.name)
  have htypes := hsame hanswers.types hother.types
  have hpredicates := hsame hanswers.predicates hother.predicates
  have hactions := hsame hanswers.actions hother.actions
  cases answers
  cases other
  simp only [Answers.mk.injEq]
  exact ⟨hname, htypes, hpredicates, hactions⟩

theorem replied_zero_iff :
    Replied input 0 ↔ ∃ answer name, reply? input 0 = some answer ∧
      EntityName.ofAnswer? answer = some name := by
  constructor
  · rintro ⟨answer, hanswer, hnamed⟩
    obtain ⟨name, hname⟩ := EntityName.exists_ofAnswer?_iff.mpr (hnamed rfl)
    exact ⟨answer, name, hanswer, hname⟩
  · rintro ⟨answer, name, hanswer, hname⟩
    exact ⟨answer, hanswer, fun _ => EntityName.exists_ofAnswer?_iff.mp ⟨name, hname⟩⟩

theorem replied_iff_of_ne_zero {number : Nat} (hnumber : number ≠ 0) :
    Replied input number ↔ ∃ answer, reply? input number = some answer := by
  constructor
  · rintro ⟨answer, hanswer, -⟩
    exact ⟨answer, hanswer⟩
  · rintro ⟨answer, hanswer⟩
    exact ⟨answer, hanswer, fun hzero => (hnumber hzero).elim⟩

/-- A complete description leaves no prompt without an answer. -/
theorem Answers.GivenBy.not_failsAt {answers : Answers} (hanswers : answers.GivenBy policy input)
    (number : Nat) : ¬FailsAt input number := by
  intro hfails
  have hlimit : number < 4 := hfails.asked
  refine hfails.fails ?_
  match number, hlimit with
  | 0, _ =>
    obtain ⟨answer, hanswer, hname⟩ := hanswers.name
    exact replied_zero_iff.mpr ⟨answer, answers.name, hanswer, hname⟩
  | 1, _ => exact (replied_iff_of_ne_zero (by decide)).mpr (hanswers.types.imp fun _ h => h.1)
  | 2, _ => exact (replied_iff_of_ne_zero (by decide)).mpr (hanswers.predicates.imp fun _ h => h.1)
  | 3, _ => exact (replied_iff_of_ne_zero (by decide)).mpr (hanswers.actions.imp fun _ h => h.1)

/-! ### At the terminal -/

namespace Terminal

variable {terminal : Terminal}

theorem ask_of_some {answer : String} (hreply : reply? terminal.input 0 = some answer)
    (prompt : String) : Prompter.ask terminal prompt = (.ok answer, terminal.after [prompt]) := by
  have hask := ask_after_of_some [] hreply prompt
  rwa [after_nil] at hask

theorem ask_of_none (hreply : reply? terminal.input 0 = none) (prompt : String) :
    ∃ fault, Prompter.ask terminal prompt = (.error fault, terminal.after [prompt]) := by
  have hask := ask_after_of_none [] hreply prompt
  rwa [after_nil] at hask

theorem outcome_collectName_of_some {answer : String} {name : EntityName}
    (hreply : reply? terminal.input 0 = some answer)
    (hname : EntityName.ofAnswer? answer = some name) :
    (collectName : Program EntityName).outcome terminal =
      (.ok name, terminal.after [namePrompt]) := by
  rw [outcome_collectName, ask_of_some hreply]
  show (nameIn answer, _) = _
  rw [nameIn, hname]

theorem outcome_collectName_of_not_replied (hreply : ¬Replied terminal.input 0) :
    ∃ fault, (collectName : Program EntityName).outcome terminal =
      (.error fault, terminal.after [namePrompt]) := by
  rw [outcome_collectName]
  cases hanswer : reply? terminal.input 0 with
  | none =>
    obtain ⟨fault, hask⟩ := ask_of_none hanswer namePrompt
    rw [hask]
    exact ⟨fault, rfl⟩
  | some answer =>
    have hblank : EntityName.ofAnswer? answer = none := by
      cases hname : EntityName.ofAnswer? answer with
      | none => rfl
      | some name => exact (hreply (replied_zero_iff.mpr ⟨answer, name, hanswer, hname⟩)).elim
    rw [ask_of_some hanswer]
    show ∃ fault, (nameIn answer, _) = _
    rw [nameIn, hblank]
    exact ⟨_, rfl⟩

/-- A further prompt either gets its answer, or it ends the collecting. -/
theorem outcome_collectTokens_bind (asked : List String) (hasked : asked.length ≠ 0)
    (prompt : String) (casing : Casing) (policy : EmptyTokens)
    (rest : List String → Program Answers) :
    (∃ answer, reply? terminal.input asked.length = some answer ∧
      (collectTokens prompt casing policy >>= rest).outcome (terminal.after asked) =
        (rest (tokenize answer casing policy)).outcome (terminal.after (asked ++ [prompt]))) ∨
    ¬Replied terminal.input asked.length ∧ ∃ fault,
      (collectTokens prompt casing policy >>= rest).outcome (terminal.after asked) =
        (.error fault, terminal.after (asked ++ [prompt])) := by
  rw [Program.outcome_bind, outcome_collectTokens]
  cases hanswer : reply? terminal.input asked.length with
  | none =>
    obtain ⟨fault, hask⟩ := ask_after_of_none asked hanswer prompt
    refine .inr ⟨?_, fault, by rw [hask]; rfl⟩
    rw [replied_iff_of_ne_zero hasked, hanswer]
    simp
  | some answer =>
    rw [ask_after_of_some asked hanswer]
    exact .inl ⟨answer, rfl, rfl⟩

/-- The terminal either gives a complete description, all prompts asked, or it fails at the first
    prompt without an answer, and no further one is asked. -/
theorem outcome_collectAnswers (terminal : Terminal) (policy : EmptyTokens) :
    (∃ answers, Answers.GivenBy policy terminal.input answers ∧
      (collectAnswers policy : Program Answers).outcome terminal =
        (.ok answers, terminal.after prompts)) ∨
    ∃ number fault, FailsAt terminal.input number ∧
      (collectAnswers policy : Program Answers).outcome terminal =
        (.error fault, terminal.after (prompts.take (number + 1))) := by
  unfold collectAnswers
  rw [Program.outcome_bind]
  by_cases hname : Replied terminal.input 0
  · have hone : ∀ earlier, earlier < 1 → Replied terminal.input earlier :=
      Nat.forall_lt_succ_right.mpr ⟨by simp, hname⟩
    obtain ⟨first, name, hfirst, hnamed⟩ := replied_zero_iff.mp hname
    rw [outcome_collectName_of_some hfirst hnamed]
    dsimp only
    rcases outcome_collectTokens_bind [namePrompt] (by decide) typesPrompt .title policy
        _ with ⟨second, hsecond, htypes⟩ | ⟨hfails, fault, htypes⟩
    · have htwo : ∀ earlier, earlier < 2 → Replied terminal.input earlier :=
        Nat.forall_lt_succ_right.mpr ⟨hone, (replied_iff_of_ne_zero (by decide)).mpr ⟨_, hsecond⟩⟩
      rw [htypes]
      rcases outcome_collectTokens_bind ([namePrompt] ++ [typesPrompt]) (by decide)
          predicatesPrompt .lower policy _ with ⟨third, hthird, hpredicates⟩ |
          ⟨hfails, fault, hpredicates⟩
      · have hthree : ∀ earlier, earlier < 3 → Replied terminal.input earlier :=
          Nat.forall_lt_succ_right.mpr ⟨htwo, (replied_iff_of_ne_zero (by decide)).mpr ⟨_, hthird⟩⟩
        rw [hpredicates]
        rcases outcome_collectTokens_bind
            ([namePrompt] ++ [typesPrompt] ++ [predicatesPrompt]) (by decide) actionsPrompt .lower
            policy _ with ⟨fourth, hfourth, hactions⟩ |
            ⟨hfails, fault, hactions⟩
        · rw [hactions]
          exact .inl ⟨⟨name, _, _, _⟩,
            ⟨⟨first, hfirst, hnamed⟩, ⟨second, hsecond, rfl⟩, ⟨third, hthird, rfl⟩,
              ⟨fourth, hfourth, rfl⟩⟩, rfl⟩
        · rw [hactions]
          exact .inr ⟨3, fault, ⟨by decide, hthree, hfails⟩, rfl⟩
      · rw [hpredicates]
        exact .inr ⟨2, fault, ⟨by decide, htwo, hfails⟩, rfl⟩
    · rw [htypes]
      exact .inr ⟨1, fault, ⟨by decide, hone, hfails⟩, rfl⟩
  · obtain ⟨fault, hcollect⟩ := outcome_collectName_of_not_replied hname
    rw [hcollect]
    exact .inr ⟨0, fault, ⟨by decide, by simp, hname⟩, rfl⟩

end Terminal

end PlanScaffold
