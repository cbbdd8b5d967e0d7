/-
  PlanScaffold/Proofs/Command/Logging.lean
  ========================================
  **A threshold decides what is in the log, and nothing else.**

  A command reports the same events under every threshold, and comes to the same end; its log keeps
  the events that the threshold shows (`exists_run_eq`).  So the log of a quieter run can be had
  from that of a louder one, by leaving out what it does not show.
-/
import PlanScaffold.Proofs.Command.Contract
import PlanScaffold.Proofs.SuffixWarning

namespace PlanScaffold

variable {quiet loud : Threshold}

theorem Event.passes_of_rank_le (hrank : quiet.rank ≤ loud.rank) {event : Event}
    (hpasses : event.passes quiet = true) : event.passes loud = true := by
  simp only [Event.passes, decide_eq_true_eq] at hpasses ⊢
  exact hpasses.trans hrank

/-- What a quieter log shows is also in a louder one. -/
theorem filter_filter_passes (hrank : quiet.rank ≤ loud.rank) (events : List Event) :
    (events.filter (Event.passes loud)).filter (Event.passes quiet) =
      events.filter (Event.passes quiet) := by
  rw [List.filter_filter]
  refine List.filter_congr fun event _ => ?_
  cases hpasses : event.passes quiet with
  | false => rfl
  | true => simp [Event.passes_of_rank_le hrank hpasses]

/-- The threshold has no part in a command but to choose from its events. -/
theorem exists_run_eq (arguments : List String) (input : Bytes) (disk : Disk)
    (wording : ConfigFault → String) :
    ∃ (report : Report) (events : List Event), ∀ threshold,
      run threshold arguments input disk wording =
        { report with log := events.filter (Event.passes threshold) } := by
  -- without a file name, the ending is known at once
  have hother : ∀ ending : Ending,
      (perform arguments wording : SessionM Disk Terminal Ending) = pure ending →
      ∃ (report : Report) (events : List Event), ∀ threshold,
        run threshold arguments input disk wording =
          { report with log := events.filter (Event.passes threshold) } := by
    intro ending hperform
    refine ⟨.ofEnding ending { store := disk, prompter := { input } }, [], fun threshold => ?_⟩
    unfold run
    rw [hperform]
    rfl
  cases hparse : CommandLine.parse arguments with
  | generate destination =>
    refine ⟨.ofEnding (.of wording (configuredEffect destination disk ({ input } : Terminal)).1)
      { store := (configuredEffect destination disk ({ input } : Terminal)).2.1
        prompter := (configuredEffect destination disk ({ input } : Terminal)).2.2 },
      configuredEvents destination disk ({ input } : Terminal), fun threshold => ?_⟩
    exact run_of_generate hparse threshold input disk wording
  | help => exact hother { code := 0, output := CommandLine.helpText } (by rw [perform, hparse])
  | version =>
    exact hother { code := 0, output := CommandLine.versionText } (by rw [perform, hparse])
  | refuse fault =>
    exact hother { code := 2, complaint := CommandLine.faultText fault }
      (by rw [perform, hparse])

/-- **Logging does not interfere.**  Of two runs, the quieter one differs from the other in its log
    alone, and there by what it does not show. -/
theorem run_quieter (hrank : quiet.rank ≤ loud.rank) (arguments : List String) (input : Bytes)
    (disk : Disk) (wording : ConfigFault → String) :
    run quiet arguments input disk wording =
        { run loud arguments input disk wording with
          log := (run loud arguments input disk wording).log.filter (Event.passes quiet) } ∧
      (run quiet arguments input disk wording).errorText =
        logText ((run loud arguments input disk wording).log.filter (Event.passes quiet)) ++
          (run loud arguments input disk wording).complaint := by
  obtain ⟨report, events, hrun⟩ := exists_run_eq arguments input disk wording
  rw [hrun quiet, hrun loud, Report.errorText]
  dsimp only
  rw [filter_filter_passes hrank]
  exact ⟨rfl, rfl⟩

/-- On an empty disk and without any input, the whole log has two events, and one of them is left
    under the threshold for warnings. -/
theorem run_quieter_warnings :
    (run (.upTo .debug) ["a.txt"] [] { tree := {} }).log =
      [.noConfigFile ⟨"/py2pddl.toml"⟩, .noPythonSuffix ⟨"a.txt"⟩] ∧
    Threshold.rank (.upTo .warn) ≤ Threshold.rank (.upTo .debug) ∧
    (run (.upTo .warn) ["a.txt"] [] { tree := {} }).log = [.noPythonSuffix ⟨"a.txt"⟩] := by
  have hparse : CommandLine.parse ["a.txt"] = .generate ⟨"a.txt"⟩ := by decide
  have hwalk : FileTree.walk {} FileTree.linkLimit [] ["a.txt"] = .error .noEntry := by
    rw [FileTree.walk_name (by decide) (by decide) (by decide)]
    rfl
  have hfree : SkeletonStore.holds ({ tree := {} } : Disk) ⟨"a.txt"⟩ = false := by
    show Except.isOk (Except.mapError _ (FileTree.walk {} FileTree.linkLimit [] ["a.txt"])) = _
    rw [hwalk]
    rfl
  have hnames : ¬FileTree.names {} ⟨"a.txt"⟩ = true := Bool.eq_false_iff.mp hfree
  have hmissing : FileTree.configurationEvents {} (FileTree.workingPath {}) =
      [.noConfigFile ⟨"/py2pddl.toml"⟩] := by
    have hpath : Path.child (FileTree.workingPath {}) configFileName = ⟨"/py2pddl.toml"⟩ := by
      decide
    unfold FileTree.configurationEvents
    rw [readText_nil, hpath]
    rfl
  have hgenerate : (generate ⟨"a.txt"⟩ Config.standard.emptyTokens : Program Outcome).events
      ({ tree := {} } : Disk) ({ input := [] } : Terminal) = [.noPythonSuffix ⟨"a.txt"⟩] := by
    rw [events_generate_of_free hfree, generateUnwarned_eq, Program.events, hfree]
    rfl
  have hevents : configuredEvents ⟨"a.txt"⟩ ({ tree := {} } : Disk) ({ input := [] } : Terminal) =
      [.noConfigFile ⟨"/py2pddl.toml"⟩, .noPythonSuffix ⟨"a.txt"⟩] := by
    unfold configuredEvents
    rw [if_neg hnames, hmissing, configuration_nil]
    dsimp only
    rw [hgenerate]
    rfl
  have hloud : (run (.upTo .debug) ["a.txt"] [] { tree := {} }).log =
      [.noConfigFile ⟨"/py2pddl.toml"⟩, .noPythonSuffix ⟨"a.txt"⟩] := by
    rw [run_of_generate hparse, hevents]
    rfl
  have hrank : Threshold.rank (.upTo .warn) ≤ Threshold.rank (.upTo .debug) := by decide
  refine ⟨hloud, hrank, ?_⟩
  rw [(run_quieter hrank ["a.txt"] [] { tree := {} } ConfigFault.message).1, hloud]
  rfl

end PlanScaffold
