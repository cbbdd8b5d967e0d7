/-
  PlanScaffold/Proofs/Command/Contract.lean
  =========================================
  **How a command ends that is given one file name.**

  Six stages can each end a command: the destination is taken, the configuration is faulty, one of
  the four prompts gets no answer, or the file cannot be made.  Which of them it is depends on the
  disk and the input alone, and it decides all that can be observed: the exit code, the prompts
  that were shown, the lines that were read, and what has become of the disk.  The wording of a
  faulty configuration has no part in it.

  A `Verdict` is one way to end.  `Applies` tells from which disk and input it comes about, and
  `Shows` what is observed then.
-/
import Mathlib
import PlanScaffold.Command
import PlanScaffold.Proofs.Terminal.Answers

namespace PlanScaffold

/-! ### The ways to end -/

/-- A way in which a command with one file name ends.  A prompt is told by its number, counted from
    nought. -/
inductive Verdict where
  | taken
  | misconfigured (fault : Fault)
  | unanswered (number : Nat)
  | refused (answers : Answers)
  | written (answers : Answers) (place : Place)

/-- What is written for the first prompts. -/
def shownPrompts (count : Nat) : String := String.join ((prompts.take count).map promptText)

/-- What is left of an input behind its first lines. -/
def linesBehind (count : Nat) (input : Bytes) : Bytes := ((linesOf input).drop count).flatten

namespace Verdict

def Applies (disk : Disk) (input : Bytes) (destination : Path) : Verdict → Prop
  | .taken => disk.tree.names destination = true
  | .misconfigured fault =>
    disk.tree.names destination = false ∧ disk.tree.configuration = .error fault
  | .unanswered number =>
    disk.tree.names destination = false ∧ ∃ config, disk.tree.configuration = .ok config ∧
      FailsAt input number
  | .refused answers =>
    disk.tree.names destination = false ∧ ∃ config, disk.tree.configuration = .ok config ∧
      answers.GivenBy config.emptyTokens input ∧
      ∀ place, disk.tree.freePlace destination = .ok place →
        disk.fits (Skeleton.render answers).utf8ByteSize = false
  | .written answers place =>
    disk.tree.names destination = false ∧ ∃ config, disk.tree.configuration = .ok config ∧
      answers.GivenBy config.emptyTokens input ∧
      disk.tree.freePlace destination = .ok place ∧
      disk.fits (Skeleton.render answers).utf8ByteSize = true

def Shows (disk : Disk) (input : Bytes) (destination : Path) (report : Report) : Verdict → Prop
  | .taken | .misconfigured _ =>
    report.code = 1 ∧ report.output = "" ∧ report.unread = input ∧ report.disk = disk
  | .unanswered number =>
    report.code = 1 ∧ report.output = shownPrompts (number + 1) ∧
      report.unread = linesBehind (number + 1) input ∧ report.disk = disk
  | .refused _ =>
    report.code = 1 ∧ report.output = shownPrompts prompts.length ∧
      report.unread = linesBehind prompts.length input ∧ report.disk = disk
  | .written answers place =>
    report.code = 0 ∧
      report.output =
        shownPrompts prompts.length ++ ("File written to " ++ destination.text ++ "\n") ∧
      report.unread = linesBehind prompts.length input ∧
      report.disk.sizeLimit = disk.sizeLimit ∧
      disk.tree.Gains destination place (Utf8.encode (Skeleton.render answers)) report.disk.tree

variable {disk : Disk} {input : Bytes} {destination : Path}

theorem answers_unique {config config' : Config} {answers answers' : Answers}
    (hconfig : disk.tree.configuration = .ok config)
    (hconfig' : disk.tree.configuration = .ok config')
    (hgiven : answers.GivenBy config.emptyTokens input)
    (hgiven' : answers'.GivenBy config'.emptyTokens input) : answers = answers' := by
  rw [hconfig] at hconfig'
  cases hconfig'
  exact hgiven.unique hgiven'

theorem Applies.unique {verdict other : Verdict} (hverdict : verdict.Applies disk input destination)
    (hother : other.Applies disk input destination) : verdict = other := by
  cases verdict <;> cases other <;> simp only [Applies] at hverdict hother
  case taken.taken => rfl
  case misconfigured.misconfigured =>
    have hfault := hverdict.2.symm.trans hother.2
    rw [Except.error.inj hfault]
  case unanswered.unanswered =>
    obtain ⟨-, -, -, hfails⟩ := hverdict
    obtain ⟨-, -, -, hfails'⟩ := hother
    rw [hfails.unique hfails']
  case refused.refused =>
    obtain ⟨-, config, hconfig, hgiven, -⟩ := hverdict
    obtain ⟨-, config', hconfig', hgiven', -⟩ := hother
    rw [answers_unique hconfig hconfig' hgiven hgiven']
  case written.written =>
    obtain ⟨-, config, hconfig, hgiven, hfree, -⟩ := hverdict
    obtain ⟨-, config', hconfig', hgiven', hfree', -⟩ := hother
    rw [answers_unique hconfig hconfig' hgiven hgiven', Except.ok.inj (hfree.symm.trans hfree')]
  case refused.written =>
    obtain ⟨-, config, hconfig, hgiven, hroom⟩ := hverdict
    obtain ⟨-, config', hconfig', hgiven', hfree, hfits⟩ := hother
    rw [answers_unique hconfig hconfig' hgiven hgiven'] at hroom
    rw [hroom _ hfree] at hfits
    cases hfits
  case written.refused =>
    obtain ⟨-, config, hconfig, hgiven, hfree, hfits⟩ := hverdict
    obtain ⟨-, config', hconfig', hgiven', hroom⟩ := hother
    rw [answers_unique hconfig' hconfig hgiven' hgiven] at hroom
    rw [hroom _ hfree] at hfits
    cases hfits
  -- the stage of one of the two was not reached by the other
  all_goals grind [Answers.GivenBy.not_failsAt]

end Verdict

/-! ### The command -/

/-- The end of a command whose generating has come to this. -/
def Ending.of (wording : ConfigFault → String) : Except Fault Outcome → Ending
  | .ok outcome => .success outcome
  | .error fault => .failure fault wording

theorem perform_of_settle {arguments : List String} {destination : Path}
    (hparse : CommandLine.parse arguments = .generate destination)
    {session final : Session Disk Terminal} {result : Except Fault Outcome}
    (hgenerate : (generateConfigured destination : SessionM Disk Terminal Outcome) session =
      Session.settle final result) (wording : ConfigFault → String) :
    (perform arguments wording : SessionM Disk Terminal Ending) session =
      .ok (.of wording result) final := by
  unfold perform
  rw [hparse]
  cases result with
  | error fault => exact Session.tryCatch_of_error (Session.bind_of_error hgenerate)
  | ok outcome => exact Session.tryCatch_of_ok (Session.bind_of_ok hgenerate)

/-- What a command with one file name shows, its log included. -/
theorem run_of_generate {arguments : List String} {destination : Path}
    (hparse : CommandLine.parse arguments = .generate destination) (threshold : Threshold)
    (input : Bytes) (disk : Disk) (wording : ConfigFault → String) :
    run threshold arguments input disk wording =
      .ofEnding (.of wording (configuredEffect destination disk ({ input } : Terminal)).1)
        { store := (configuredEffect destination disk ({ input } : Terminal)).2.1
          prompter := (configuredEffect destination disk ({ input } : Terminal)).2.2
          threshold := threshold
          log := (configuredEvents destination disk ({ input } : Terminal)).filter
            (Event.passes threshold) } := by
  have hperform := perform_of_settle hparse (generateConfigured_eq_settle destination
    ({ store := disk, prompter := { input }, threshold } : Session Disk Terminal)) wording
  unfold run
  dsimp only [EStateM.run]
  rw [hperform]
  rfl

theorem run_eq_ofEnding {arguments : List String} {destination : Path}
    (hparse : CommandLine.parse arguments = .generate destination) (threshold : Threshold)
    (input : Bytes) (disk : Disk) (wording : ConfigFault → String) :
    ∃ log, run threshold arguments input disk wording =
      .ofEnding (.of wording (configuredEffect destination disk ({ input } : Terminal)).1)
        { store := (configuredEffect destination disk ({ input } : Terminal)).2.1
          prompter := (configuredEffect destination disk ({ input } : Terminal)).2.2
          threshold := threshold
          log := log } :=
  ⟨_, run_of_generate hparse threshold input disk wording⟩

section Reports

variable {disk : Disk} {input : Bytes} {destination : Path} {count : Nat}
  {wording : ConfigFault → String}

/-- The report on a command that has shown the first prompts, and then come to this. -/
def reportOf (wording : ConfigFault → String) (input : Bytes) (threshold : Threshold)
    (log : List Event) (count : Nat) (result : Except Fault Outcome) (store : Disk) : Report :=
  .ofEnding (.of wording result)
    { store, threshold, log, prompter := ({ input } : Terminal).after (prompts.take count) }

theorem reportOf_output (threshold : Threshold) (log : List Event) (result : Except Fault Outcome)
    (store : Disk) :
    (reportOf wording input threshold log count result store).output =
      shownPrompts count ++ (Ending.of wording result).output := by
  show "" ++ shownPrompts count ++ _ = _
  rw [String.empty_append]

theorem reportOf_unread (hcount : count ≤ prompts.length) (threshold : Threshold)
    (log : List Event) (result : Except Fault Outcome) (store : Disk) :
    (reportOf wording input threshold log count result store).unread = linesBehind count input := by
  show dropLines (prompts.take count).length input = _
  rw [List.length_take_of_le hcount, dropLines_eq_flatten, linesBehind]

theorem reportOf_error_output (threshold : Threshold) (log : List Event) (fault : Fault)
    (store : Disk) :
    (reportOf wording input threshold log count (.error fault) store).output =
      shownPrompts count := by
  rw [reportOf_output]
  exact String.append_empty

theorem exists_verdict_of_givenBy {config : Config} {answers : Answers}
    (hnames : disk.tree.names destination = false)
    (hconfig : disk.tree.configuration = .ok config)
    (hgiven : answers.GivenBy config.emptyTokens input) (wording : ConfigFault → String)
    (threshold : Threshold) (log : List Event) :
    ∃ verdict : Verdict, verdict.Applies disk input destination ∧
      verdict.Shows disk input destination (reportOf wording input threshold log
        prompts.length
        ((disk.create destination (Skeleton.render answers)).1.map
          fun _ => ⟨destination, (Skeleton.render answers).utf8ByteSize⟩)
        (disk.create destination (Skeleton.render answers)).2) := by
  rw [Disk.create_eq]
  cases hfree : disk.tree.freePlace destination with
  | error cause =>
    refine ⟨.refused answers, ⟨hnames, config, hconfig, hgiven, fun place hplace => ?_⟩, rfl,
      reportOf_error_output .., reportOf_unread le_rfl .., rfl⟩
    rw [hfree] at hplace
    cases hplace
  | ok place =>
    dsimp only
    by_cases hfits : disk.fits (Skeleton.render answers).utf8ByteSize = true
    · rw [if_pos hfits]
      exact ⟨.written answers place, ⟨hnames, config, hconfig, hgiven, hfree, hfits⟩, rfl,
        reportOf_output .., reportOf_unread le_rfl .., rfl, FileTree.gains_put hfree _⟩
    · rw [if_neg hfits]
      exact ⟨.refused answers,
        ⟨hnames, config, hconfig, hgiven, fun _ _ => Bool.eq_false_iff.mpr hfits⟩, rfl,
        reportOf_error_output .., reportOf_unread le_rfl .., rfl⟩

theorem exists_verdict (disk : Disk) (input : Bytes) (destination : Path)
    (wording : ConfigFault → String) (threshold : Threshold) (log : List Event) :
    ∃ verdict : Verdict, verdict.Applies disk input destination ∧
      verdict.Shows disk input destination
        (.ofEnding (.of wording (configuredEffect destination disk ({ input } : Terminal)).1)
          { store := (configuredEffect destination disk ({ input } : Terminal)).2.1
            prompter := (configuredEffect destination disk ({ input } : Terminal)).2.2
            threshold := threshold
            log := log }) := by
  unfold configuredEffect
  cases hnames : disk.tree.names destination with
  | true =>
    rw [if_pos rfl]
    exact ⟨.taken, hnames, rfl, rfl, rfl, rfl⟩
  | false =>
    rw [if_neg Bool.false_ne_true]
    cases hconfig : disk.tree.configuration with
    | error fault => exact ⟨.misconfigured fault, ⟨hnames, hconfig⟩, rfl, rfl, rfl, rfl⟩
    | ok config =>
      dsimp only
      rw [effect_generate_of_free hnames]
      rcases Terminal.outcome_collectAnswers { input } config.emptyTokens with
        ⟨answers, hgiven, hcollect⟩ | ⟨number, fault, hfails, hcollect⟩
      · rw [hcollect]
        dsimp only
        rw [effect_keep]
        exact exists_verdict_of_givenBy hnames hconfig hgiven wording threshold log
      · rw [hcollect]
        exact ⟨.unanswered number, ⟨hnames, config, hconfig, hfails⟩, rfl,
          reportOf_error_output .., reportOf_unread hfails.asked .., rfl⟩

/-- **The contract of the whole command.**  Whatever the disk and the input, a command with one
    file name ends in exactly one of the ways, and shows what belongs to it. -/
theorem run_ends_one_way {arguments : List String}
    (hparse : CommandLine.parse arguments = .generate destination) (threshold : Threshold)
    (input : Bytes) (disk : Disk) (wording : ConfigFault → String) :
    ∃ verdict : Verdict,
      (∀ other : Verdict, other.Applies disk input destination ↔ other = verdict) ∧
      verdict.Shows disk input destination (run threshold arguments input disk wording) := by
  obtain ⟨log, hrun⟩ := run_eq_ofEnding hparse threshold input disk wording
  obtain ⟨verdict, happlies, hshows⟩ := exists_verdict disk input destination wording threshold log
  refine ⟨verdict, fun other => ⟨fun hother => hother.unique happlies, ?_⟩, ?_⟩
  · rintro rfl
    exact happlies
  · rw [hrun]
    exact hshows

end Reports

theorem readText_nil : FileTree.readText {} ((FileTree.workingPath {}).child configFileName) =
    .error (.system .noEntry) := by
  have hpath : Path.child (FileTree.workingPath {}) configFileName = ⟨"/py2pddl.toml"⟩ := by
    decide
  have hwalk : FileTree.walk {} FileTree.linkLimit [] ["", "py2pddl.toml"] = .error .noEntry := by
    rw [FileTree.walk_skip (.inl rfl), FileTree.walk_name (by decide) (by decide) (by decide)]
    rfl
  have hlocate : FileTree.locate {} ⟨"/py2pddl.toml"⟩ = .error (.system .noEntry) := by
    show Except.mapError _ (FileTree.walk {} FileTree.linkLimit [] ["", "py2pddl.toml"]) = _
    rw [hwalk]
    rfl
  rw [hpath, FileTree.readText, FileTree.readBytes, hlocate]
  rfl

theorem configuration_nil : FileTree.configuration {} = .ok .standard := by
  rw [FileTree.configuration, FileTree.configurationIn, readText_nil]
  rfl

/-- On an empty disk, four good lines make a file. -/
theorem run_ends_one_way_written :
    CommandLine.parse ["a.py"] = .generate ⟨"a.py"⟩ ∧
    (Verdict.written ⟨⟨"Rocket", by decide⟩, ["Stage"], ["at"], ["fly"]⟩ ["a.py"]).Shows
      { tree := {} } (Utf8.encode "rocket\nstage\nat\nfly\n") ⟨"a.py"⟩
      (run .standard ["a.py"] (Utf8.encode "rocket\nstage\nat\nfly\n") { tree := {} }) := by
  have hparse : CommandLine.parse ["a.py"] = .generate ⟨"a.py"⟩ := by decide
  have hnames : FileTree.names {} ⟨"a.py"⟩ = false := by cbv
  have hfree : FileTree.freePlace {} ⟨"a.py"⟩ = .ok ["a.py"] := by cbv
  have hgiven : Answers.GivenBy .preserve (Utf8.encode "rocket\nstage\nat\nfly\n")
      ⟨⟨"Rocket", by decide⟩, ["Stage"], ["at"], ["fly"]⟩ :=
    ⟨⟨"rocket", rfl, rfl⟩, ⟨"stage", rfl, rfl⟩, ⟨"at", rfl, rfl⟩, ⟨"fly", rfl, rfl⟩⟩
  obtain ⟨verdict, honly, hshows⟩ := run_ends_one_way hparse .standard
    (Utf8.encode "rocket\nstage\nat\nfly\n") { tree := {} } ConfigFault.message
  rw [← (honly (.written _ _)).mp ⟨hnames, .standard, configuration_nil, hgiven, hfree, rfl⟩]
    at hshows
  exact ⟨hparse, hshows⟩

end PlanScaffold
