/-
  PlanScaffold/Proofs/Terminal/Skeletons.lean
  ===========================================
  **No answer makes a line of its own.**

  What is typed at a terminal goes a long way until it is part of a skeleton: the stream is cut into
  lines, an answer is trimmed and cut into tokens, and the case of these is changed.  No line feed
  comes into a name or a token on this way.  A line has none but at its end, which is not part of the
  answer (`oneLine_of_reply?`); and a line feed is a blank, which no change of case makes of anything
  else (`oneLine_of_mem_tokenize`).
-/
import PlanScaffold.Proofs.Operations
import PlanScaffold.Proofs.Skeleton.Counting
import PlanScaffold.Proofs.Terminal.Answers
import PlanScaffold.Proofs.Terminal.Runs
import PlanScaffold.Proofs.Tokens

namespace PlanScaffold

open Text

/-! ### Answers without line feeds -/

section Inputs

variable {input : Bytes} {number : Nat} {answer : String} {policy : EmptyTokens}

theorem oneLine_of_reply? (hreply : reply? input number = some answer) : OneLine answer := by
  unfold reply? at hreply
  obtain ⟨text, hbind, rfl⟩ := Option.map_eq_some_iff.mp hreply
  obtain ⟨line, hline, htext⟩ := Option.bind_eq_some_iff.mp hbind
  have hmem := List.mem_of_getElem? hline
  have hanswer : answerIn "" line = .ok (withoutLineEnd text) := by
    rw [answerIn, if_neg (ne_nil_of_mem_linesOf hmem), htext]
  exact newline_notMem_of_reply (lineFeed_notMem_dropLast (cutsInto_linesOf input) hmem)
    (hanswer ▸ reply_answerIn "" (ne_nil_of_mem_linesOf hmem))

theorem isBlank_lineFeed : isBlank '\n' = true := by decide

theorem oneLine_of_mem_tokenize {casing : Casing} (hanswer : OneLine answer) {token : String}
    (htoken : token ∈ tokenize answer casing policy) : OneLine token := by
  obtain ⟨word, hword, rfl⟩ := List.mem_map.mp htoken
  have hselected := EmptyTokens.mem_of_mem_select hword
  rw [OneLine, String.toList_ofList, Casing.mem_onText_iff isBlank_lineFeed]
  intro hmem
  exact hanswer (trim_subset _ (subset_of_mem_words hselected hmem))

theorem oneLine_of_ofAnswer? (hanswer : OneLine answer) {name : EntityName}
    (hname : EntityName.ofAnswer? answer = some name) : OneLine name.text := by
  unfold EntityName.ofAnswer? at hname
  split at hname
  · cases hname
  · next c rest htrim =>
    have htext : '\n' ∉ c :: rest := by
      rw [← htrim]
      exact fun hmem => hanswer (trim_subset _ hmem)
    obtain ⟨hc, hrest⟩ := List.ne_and_not_mem_of_not_mem_cons htext
    cases hname
    rw [OneLine, String.toList_ofList, List.mem_append,
      (keepsBlanks_uppercase c).mem_iff isBlank_lineFeed]
    exact not_or.mpr ⟨hc, hrest⟩

/-- No description that is typed has a line feed in it. -/
theorem Answers.GivenBy.lineFree {answers : Answers} (hgiven : answers.GivenBy policy input) :
    answers.LineFree := by
  have htokens : ∀ {number : Nat} {casing : Casing} {tokens : List String},
      (∃ answer, reply? input number = some answer ∧ tokenize answer casing policy = tokens) →
      ∀ token ∈ tokens, OneLine token := by
    rintro number casing tokens ⟨answer, hreply, rfl⟩ token htoken
    exact oneLine_of_mem_tokenize (oneLine_of_reply? hreply) htoken
  obtain ⟨answer, hreply, hname⟩ := hgiven.name
  constructor
  · exact oneLine_of_ofAnswer? (oneLine_of_reply? hreply) hname
  · exact htokens hgiven.types
  · exact htokens hgiven.predicates
  · exact htokens hgiven.actions

end Inputs

/-! ### Skeletons from a terminal -/

section Stores

variable {σ : Type} [SkeletonStore σ] {destination : Path} {policy : EmptyTokens}

/-- A terminal makes a skeleton exactly when the destination is free, a description is typed and the
    store takes its skeleton. -/
theorem effect_generate_eq_ok_iff {terminal terminal' : Terminal} {store store' : σ}
    {outcome : Outcome} :
    (generate destination policy : Program Outcome).effect store terminal =
        (.ok outcome, store', terminal') ↔
      SkeletonStore.holds store destination = false ∧ terminal' = terminal.after prompts ∧
      ∃ answers, Answers.GivenBy policy terminal.input answers ∧
        SkeletonStore.create store destination (Skeleton.render answers) = (.ok (), store') ∧
        outcome = ⟨destination, (Skeleton.render answers).utf8ByteSize⟩ := by
  cases hholds : SkeletonStore.holds store destination with
  | true =>
    rw [effect_generate_of_holds hholds]
    simp
  | false =>
    rw [effect_generate_of_free hholds]
    rcases terminal.outcome_collectAnswers policy with
      ⟨answers, hgiven, hcollect⟩ | ⟨number, fault, hfails, hcollect⟩
    · rw [hcollect]
      dsimp only
      rw [effect_keep]
      constructor
      · intro hok
        rcases hcreate : SkeletonStore.create store destination (Skeleton.render answers) with
          ⟨_ | _, made⟩
        · rw [hcreate] at hok
          cases hok
        · rw [hcreate] at hok
          cases hok
          exact ⟨rfl, rfl, answers, hgiven, hcreate, rfl⟩
      · rintro ⟨-, rfl, other, hother, hcreate, rfl⟩
        rw [hgiven.unique hother, hcreate]
        rfl
    · rw [hcollect]
      refine iff_of_false (fun hok => by cases hok) ?_
      rintro ⟨-, -, answers, hgiven, -⟩
      exact hgiven.not_failsAt number hfails

/-- **Answers cannot inject lines.**  Whatever bytes are typed at a terminal, a skeleton that is
    generated from them has as many lines, marks and heads as the number of its tokens says. -/
theorem generate_counts (destination : Path) (policy : EmptyTokens) (session : Session σ Terminal)
    {outcome : Outcome}
    (hok : (session.within (generate destination policy)).1 = .ok outcome) :
    ∃ answers text, Answers.GivenBy policy session.prompter.input answers ∧
      text = Skeleton.render answers ∧
      SkeletonStore.create session.store destination text =
        (.ok (), (session.within (generate destination policy)).2.store) ∧
      outcome = ⟨destination, (Utf8.encode text).length⟩ ∧
      Skeleton.Counts text answers.types.length answers.predicates.length
        answers.actions.length := by
  obtain ⟨log, hwithin⟩ :=
    Session.within_runIn (generate destination policy : Program Outcome) session
  rw [Program.runIn_generate] at hwithin
  rw [hwithin] at hok ⊢
  obtain ⟨-, -, answers, hgiven, hcreate, houtcome⟩ :=
    effect_generate_eq_ok_iff.mp (Prod.ext hok rfl)
  refine ⟨answers, _, hgiven, rfl, hcreate, ?_, Skeleton.counts_render hgiven.lineFree⟩
  rw [houtcome, Utf8.length_encode]

end Stores

/-- Tokens that look like marks and heads are not counted as such. -/
theorem generate_counts_imitations :
    (Session.within
        (⟨{}, ⟨Utf8.encode "class a\r\nfrom class\n@predicate(...)  @action(...)\n@action(...)",
          ""⟩, .standard, []⟩ : Session MemoryStore Terminal)
        (generate ⟨"a.py"⟩ .preserve)).1 =
      .ok ⟨⟨"a.py"⟩, (Skeleton.render ⟨⟨"Class a", by decide⟩, ["From", "Class"],
        ["@predicate(...)", "", "@action(...)"], ["@action(...)"]⟩).utf8ByteSize⟩ ∧
    Skeleton.Counts (Skeleton.render ⟨⟨"Class a", by decide⟩, ["From", "Class"],
      ["@predicate(...)", "", "@action(...)"], ["@action(...)"]⟩) 2 3 1 := by
  have hgiven : Answers.GivenBy .preserve
      (Utf8.encode "class a\r\nfrom class\n@predicate(...)  @action(...)\n@action(...)")
      ⟨⟨"Class a", by decide⟩, ["From", "Class"], ["@predicate(...)", "", "@action(...)"],
        ["@action(...)"]⟩ :=
    ⟨⟨"class a", by decide +kernel, by decide +kernel⟩,
      ⟨"from class", by decide +kernel, by decide +kernel⟩,
      ⟨"@predicate(...)  @action(...)", by decide +kernel, by decide +kernel⟩,
      ⟨"@action(...)", by decide +kernel, by decide +kernel⟩⟩
  have hcreate : ∀ text, SkeletonStore.create ({} : MemoryStore) ⟨"a.py"⟩ text =
      (.ok (), (SkeletonStore.create ({} : MemoryStore) ⟨"a.py"⟩ text).2) :=
    fun text => Prod.ext (MemoryStore.create_of_free rfl text) rfl
  obtain ⟨log, hwithin⟩ :=
    Session.within_runIn (generate ⟨"a.py"⟩ .preserve)
      (⟨{}, ⟨Utf8.encode "class a\r\nfrom class\n@predicate(...)  @action(...)\n@action(...)",
        ""⟩, .standard, []⟩ : Session MemoryStore Terminal)
  rw [Program.runIn_generate,
    effect_generate_eq_ok_iff.mpr ⟨rfl, rfl, _, hgiven, hcreate _, rfl⟩] at hwithin
  have hok := congrArg Prod.fst hwithin
  obtain ⟨answers, text, hanswers, rfl, -, -, hcounts⟩ := generate_counts _ _ _ hok
  rw [hanswers.unique hgiven] at hcounts
  exact ⟨hok, hcounts⟩

end PlanScaffold
