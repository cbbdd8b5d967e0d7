/-
  PlanScaffold/Proofs/Memory/Generation.lean
  ==========================================
  **Generating into memory, from prepared answers.**

  With a store in memory and a script, everything that generating a skeleton does can be told
  beforehand.  Either it puts the skeleton of the first four answers at the destination and uses up
  just these four, or it leaves the store as it was; and then the prompts that were shown
  end with the first one that did not get what it asks for.
-/
import PlanScaffold.Proofs.Answers
import PlanScaffold.Proofs.Generate
import PlanScaffold.Proofs.Operations

namespace PlanScaffold

open Text

/-! ### Prompts without an answer -/

/-- Among these answers, the prompt with this number, counted from nought, does not get what it
    asks for. -/
inductive Unmet (answers : List String) : Nat → Fault → Prop where
  | blankName {answer : String} (hfirst : answers[0]? = some answer)
      (hblank : ∀ c ∈ answer.toList, isBlank c = true) : Unmet answers 0 (.emptyInput "Name")
  | noAnswer {number : Nat} {prompt : String} (hprompt : prompts[number]? = some prompt)
      (hmissing : answers[number]? = none) :
      Unmet answers number (.prompt ("No scripted answer for '" ++ prompt ++ "'"))

structure FirstUnmet (answers : List String) (number : Nat) (fault : Fault) : Prop where
  unmet : Unmet answers number fault
  earlier : ∀ earlier, earlier < number → ∀ other, ¬Unmet answers earlier other

theorem firstUnmet_of_blank {answer : String} (hblank : ∀ c ∈ answer.toList, isBlank c = true)
    (rest : List String) : FirstUnmet (answer :: rest) 0 (.emptyInput "Name") where
  unmet := .blankName rfl hblank
  earlier := fun _ hless => (Nat.not_lt_zero _ hless).elim

/-- Where the name is no matter, the first prompt without an answer is the one with the number of
    answers. -/
theorem firstUnmet_of_short {answers : List String} {prompt : String}
    (hprompt : prompts[answers.length]? = some prompt)
    (hname : ∀ answer, answers[0]? = some answer → ∃ c ∈ answer.toList, isBlank c = false) :
    FirstUnmet answers answers.length
      (.prompt ("No scripted answer for '" ++ prompt ++ "'")) := by
  refine ⟨.noAnswer hprompt (List.getElem?_eq_none le_rfl), ?_⟩
  intro earlier hless other hunmet
  cases hunmet with
  | blankName hfirst hblank =>
    obtain ⟨c, hc, hshown⟩ := hname _ hfirst
    rw [hblank c hc] at hshown
    cases hshown
  | noAnswer _ hmissing =>
    have hlength := List.getElem?_eq_none_iff.mp hmissing
    omega

/-- With four answers and a name, no prompt is without what it asks for. -/
theorem not_unmet {answers : List String} (hfour : 4 ≤ answers.length)
    (hname : ∃ answer, answers[0]? = some answer ∧ ∃ c ∈ answer.toList, isBlank c = false)
    (number : Nat) (fault : Fault) : ¬Unmet answers number fault := by
  intro hunmet
  cases hunmet with
  | blankName hfirst hblank =>
    obtain ⟨answer, hanswer, c, hc, hshown⟩ := hname
    rw [hfirst] at hanswer
    cases hanswer
    rw [hblank c hc] at hshown
    cases hshown
  | noAnswer hprompt hmissing =>
    have hnumber : number < 4 := (List.getElem?_eq_some_iff.mp hprompt).1
    have hlength := List.getElem?_eq_none_iff.mp hmissing
    omega

/-! ### Collecting from a script -/

namespace Script

theorem outcome_collectName (answer : String) (rest asked : List String) :
    (collectName : Program EntityName).outcome (⟨answer :: rest, asked⟩ : Script) =
      (nameIn answer, ⟨rest, asked ++ [namePrompt]⟩) :=
  PlanScaffold.outcome_collectName _

variable {prompt : String} {casing : Casing} {policy : EmptyTokens}
  {next : List String → Program Answers}

theorem outcome_collectTokens_bind_nil (asked : List String) :
    (collectTokens prompt casing policy >>= next).outcome (⟨[], asked⟩ : Script) =
      (.error (.prompt ("No scripted answer for '" ++ prompt ++ "'")), ⟨[], asked ++ [prompt]⟩) := by
  rw [Program.outcome_bind, outcome_collectTokens]
  rfl

theorem outcome_collectTokens_bind_cons (answer : String) (rest asked : List String) :
    (collectTokens prompt casing policy >>= next).outcome (⟨answer :: rest, asked⟩ : Script) =
      (next (tokenize answer casing policy)).outcome (⟨rest, asked ++ [prompt]⟩ : Script) := by
  rw [Program.outcome_bind, outcome_collectTokens]
  rfl

/-- Either four answers are used up for a description, or the prompts end with the first one that
    is not met. -/
theorem outcome_collectAnswers (answers asked : List String) (policy : EmptyTokens) :
    (∃ first second third fourth rest name,
      answers = first :: second :: third :: fourth :: rest ∧
      EntityName.ofAnswer? first = some name ∧
      (collectAnswers policy : Program Answers).outcome (⟨answers, asked⟩ : Script) =
        (.ok ⟨name, tokenize second .title policy, tokenize third .lower policy,
          tokenize fourth .lower policy⟩, ⟨rest, asked ++ prompts⟩)) ∨
    ∃ number fault, FirstUnmet answers number fault ∧
      (collectAnswers policy : Program Answers).outcome (⟨answers, asked⟩ : Script) =
        (.error fault, ⟨answers.drop (number + 1), asked ++ prompts.take (number + 1)⟩) := by
  unfold collectAnswers
  rw [Program.outcome_bind]
  rcases answers with _ | ⟨first, answers⟩
  · exact .inr ⟨0, _, firstUnmet_of_short rfl (by simp), rfl⟩
  rw [outcome_collectName, nameIn]
  cases hname : EntityName.ofAnswer? first with
  | none =>
    exact .inr ⟨0, _, firstUnmet_of_blank (EntityName.ofAnswer?_eq_none_iff.mp hname) answers, rfl⟩
  | some name =>
    have hshown : ∀ answer, (first :: answers)[0]? = some answer →
        ∃ c ∈ answer.toList, isBlank c = false := by
      intro answer hanswer
      cases hanswer
      exact EntityName.exists_ofAnswer?_iff.mp ⟨name, hname⟩
    dsimp only
    rcases answers with _ | ⟨second, answers⟩
    · rw [outcome_collectTokens_bind_nil]
      exact .inr ⟨1, _, firstUnmet_of_short rfl hshown, by simp [prompts]⟩
    rw [outcome_collectTokens_bind_cons]
    rcases answers with _ | ⟨third, answers⟩
    · rw [outcome_collectTokens_bind_nil]
      exact .inr ⟨2, _, firstUnmet_of_short rfl hshown, by simp [prompts]⟩
    rw [outcome_collectTokens_bind_cons]
    rcases answers with _ | ⟨fourth, rest⟩
    · rw [outcome_collectTokens_bind_nil]
      exact .inr ⟨3, _, firstUnmet_of_short rfl hshown, by simp [prompts]⟩
    rw [outcome_collectTokens_bind_cons]
    refine .inl ⟨first, second, third, fourth, rest, name, rfl, hname, ?_⟩
    simp only [List.append_assoc]
    rfl

end Script

/-! ### All or nothing -/

/-- How generating a skeleton ends in a session with a store in memory and a script. -/
structure AllOrNothing (destination : Path) (policy : EmptyTokens)
    (before : Session MemoryStore Script) (result : Except Fault Outcome)
    (after : Session MemoryStore Script) : Prop where
  ok_iff : (∃ outcome, result = .ok outcome) ↔
    before.store.holds destination = false ∧ 4 ≤ before.prompter.answers.length ∧
      ∃ answer, before.prompter.answers[0]? = some answer ∧
        ∃ c ∈ answer.toList, isBlank c = false
  kept : ∀ outcome, result = .ok outcome →
    ∃ first second third fourth rest name text,
      before.prompter.answers = first :: second :: third :: fourth :: rest ∧
      EntityName.ofAnswer? first = some name ∧
      text = Skeleton.render ⟨name, tokenize second .title policy, tokenize third .lower policy,
        tokenize fourth .lower policy⟩ ∧
      outcome = ⟨destination, (Utf8.encode text).length⟩ ∧
      (∀ path, after.store.read? path =
        if path.steps = destination.steps then some text else before.store.read? path) ∧
      after.prompter = ⟨rest, before.prompter.asked ++ prompts⟩
  unchanged : ∀ fault, result = .error fault → after.store = before.store
  taken : before.store.holds destination = true →
    result = .error (.destinationExists destination) ∧ after.prompter = before.prompter
  unmet : before.store.holds destination = false → ∀ fault, result = .error fault →
    ∃ number, FirstUnmet before.prompter.answers number fault ∧
      after.prompter = ⟨before.prompter.answers.drop (number + 1),
        before.prompter.asked ++ prompts.take (number + 1)⟩

theorem allOrNothing_of_taken {destination : Path} {policy : EmptyTokens}
    {before after : Session MemoryStore Script}
    (htaken : before.store.holds destination = true) (hstore : after.store = before.store)
    (hprompter : after.prompter = before.prompter) :
    AllOrNothing destination policy before (.error (.destinationExists destination)) after where
  ok_iff := by
    refine iff_of_false (by rintro ⟨outcome, houtcome⟩; cases houtcome) ?_
    rintro ⟨hfree, -⟩
    rw [htaken] at hfree
    cases hfree
  kept := by
    intro outcome houtcome
    cases houtcome
  unchanged := fun _ _ => hstore
  taken := fun _ => ⟨rfl, hprompter⟩
  unmet := by
    intro hfree
    rw [htaken] at hfree
    cases hfree

theorem allOrNothing_of_firstUnmet {destination : Path} {policy : EmptyTokens}
    {before after : Session MemoryStore Script} {number : Nat} {fault : Fault}
    (hfree : before.store.holds destination = false)
    (hunmet : FirstUnmet before.prompter.answers number fault)
    (hstore : after.store = before.store)
    (hprompter : after.prompter = ⟨before.prompter.answers.drop (number + 1),
      before.prompter.asked ++ prompts.take (number + 1)⟩) :
    AllOrNothing destination policy before (.error fault) after where
  ok_iff := by
    refine iff_of_false (by rintro ⟨outcome, houtcome⟩; cases houtcome) ?_
    rintro ⟨-, hfour, hname⟩
    exact not_unmet hfour hname number fault hunmet.unmet
  kept := by
    intro outcome houtcome
    cases houtcome
  unchanged := fun _ _ => hstore
  taken := by
    intro htaken
    rw [hfree] at htaken
    cases htaken
  unmet := by
    intro _ other hother
    cases hother
    exact ⟨number, hunmet, hprompter⟩

theorem allOrNothing_of_described {destination : Path} {policy : EmptyTokens}
    {before after : Session MemoryStore Script} {first second third fourth : String}
    {rest : List String} {name : EntityName} {text : String}
    (hfree : before.store.holds destination = false)
    (hanswers : before.prompter.answers = first :: second :: third :: fourth :: rest)
    (hname : EntityName.ofAnswer? first = some name)
    (htext : text = Skeleton.render ⟨name, tokenize second .title policy,
      tokenize third .lower policy, tokenize fourth .lower policy⟩)
    (hstore : after.store = (before.store.create destination text).2)
    (hprompter : after.prompter = ⟨rest, before.prompter.asked ++ prompts⟩) :
    AllOrNothing destination policy before (.ok ⟨destination, text.utf8ByteSize⟩) after where
  ok_iff := by
    refine iff_of_true ⟨_, rfl⟩ ⟨hfree, ?_, first, ?_, ?_⟩
    · rw [hanswers]
      exact Nat.le_add_left 4 rest.length
    · rw [hanswers]
      rfl
    · exact EntityName.exists_ofAnswer?_iff.mp ⟨name, hname⟩
  kept := by
    intro outcome houtcome
    cases houtcome
    refine ⟨first, second, third, fourth, rest, name, text, hanswers, hname, htext, rfl, ?_,
      hprompter⟩
    intro path
    rw [hstore]
    exact MemoryStore.read?_create hfree path text
  unchanged := by
    intro fault hfault
    cases hfault
  taken := by
    intro htaken
    rw [hfree] at htaken
    cases htaken
  unmet := by
    intro _ fault hfault
    cases hfault

/-- **Generating into memory is all or nothing.**  It succeeds just if the destination is free, four
    answers are left and the first is not blank.  Then the store gains the skeleton, and otherwise
    it stays as it was; in any case no prompt is shown and no answer used beyond the first prompt
    that is not met. -/
theorem generate_all_or_nothing (destination : Path) (policy : EmptyTokens)
    (before : Session MemoryStore Script) :
    AllOrNothing destination policy before
      (before.within (generate destination policy)).1
      (before.within (generate destination policy)).2 := by
  obtain ⟨log, hwithin⟩ :=
    Session.within_runIn (generate destination policy : Program Outcome) before
  rw [Program.runIn_generate] at hwithin
  rw [hwithin]
  cases hholds : before.store.holds destination with
  | true =>
    rw [effect_generate_of_holds hholds]
    exact allOrNothing_of_taken hholds rfl rfl
  | false =>
    rw [effect_generate_of_free hholds]
    rcases Script.outcome_collectAnswers before.prompter.answers before.prompter.asked policy with
      ⟨first, second, third, fourth, rest, name, hanswers, hname, hcollect⟩ |
      ⟨number, fault, hunmet, hcollect⟩
    · rw [hcollect]
      dsimp only
      rw [effect_keep]
      have hcreated : (SkeletonStore.create before.store destination _).1 = .ok () :=
        MemoryStore.create_of_free hholds (Skeleton.render ⟨name, tokenize second .title policy,
          tokenize third .lower policy, tokenize fourth .lower policy⟩)
      rw [hcreated]
      exact allOrNothing_of_described hholds hanswers hname rfl rfl rfl
    · rw [hcollect]
      exact allOrNothing_of_firstUnmet hholds hunmet rfl rfl

end PlanScaffold
