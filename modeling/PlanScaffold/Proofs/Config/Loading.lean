/-
  PlanScaffold/Proofs/Config/Loading.lean
  =======================================
  **A configuration that is there is never passed over.**

  Loading a configuration is told here by what there is at its path.  A text decides alone, whether
  it is a configuration or not; only where something is missing the standard configuration stands
  in; and whatever else there is ends the command with the failure of reading it.  When the command
  ends so, nothing was asked.
-/
import PlanScaffold.Proofs.FileTree.Walks
import PlanScaffold.Proofs.Generate

namespace PlanScaffold

/-- Where a directory has its configuration. -/
def configPath (directory : Path) : Path := directory.child configFileName

namespace FileTree

/-- What loading the configuration of a directory has to come to, by what there is at its path. -/
structure Loads (tree : FileTree) (directory : Path) (result : Except Fault Config) : Prop where
  /-- Something is missing exactly where reading says that nothing was found. -/
  missing : tree.IsMissing (configPath directory) ↔
    ∃ cause, tree.readText (configPath directory) = .error cause ∧ cause.kind = .notFound
  /-- The standard configuration is that of a text, or it stands in for what is missing. -/
  standard : result = .ok .standard ↔
    tree.IsMissing (configPath directory) ∨
      ∃ text, tree.HasText (configPath directory) text ∧ Config.parse text = .ok .standard
  /-- A text decides alone, whether it is a configuration or not. -/
  text : ∀ text, tree.HasText (configPath directory) text →
    result = (Config.parse text).mapError .config
  /-- Whatever else there is, reading it fails, and so does loading. -/
  otherwise : ¬tree.IsMissing (configPath directory) →
    (∀ text, ¬tree.HasText (configPath directory) text) →
      ∃ cause, tree.Refuses (configPath directory) cause ∧
        tree.readText (configPath directory) = .error cause ∧ result = .error (.io cause)

variable {tree : FileTree} {directory : Path}

theorem configurationIn_of_hasText {text : String}
    (htext : tree.HasText (configPath directory) text) :
    tree.configurationIn directory = (Config.parse text).mapError .config := by
  unfold configurationIn
  rw [← configPath, htext.readText_eq]

theorem configurationIn_of_isMissing (hmissing : tree.IsMissing (configPath directory)) :
    tree.configurationIn directory = .ok .standard := by
  unfold configurationIn
  rw [← configPath, hmissing.readText_eq]
  rfl

theorem configurationIn_of_refuses {cause : IoFault}
    (hrefuses : tree.Refuses (configPath directory) cause) :
    tree.configurationIn directory = .error (.io cause) := by
  unfold configurationIn
  rw [← configPath, hrefuses.readText_eq]
  exact if_neg hrefuses.kind_ne_notFound

theorem configurationIn_eq_standard_iff :
    tree.configurationIn directory = .ok .standard ↔
      tree.IsMissing (configPath directory) ∨
        ∃ text, tree.HasText (configPath directory) text ∧ Config.parse text = .ok .standard := by
  constructor
  · intro hstandard
    rcases hasText_or_isMissing_or_refuses tree (configPath directory) with
      ⟨text, htext⟩ | hmissing | ⟨cause, hrefuses⟩
    · rw [configurationIn_of_hasText htext, mapError_eq_ok] at hstandard
      exact .inr ⟨text, htext, hstandard⟩
    · exact .inl hmissing
    · rw [configurationIn_of_refuses hrefuses] at hstandard
      cases hstandard
  · rintro (hmissing | ⟨text, htext, hparse⟩)
    · exact configurationIn_of_isMissing hmissing
    · exact (configurationIn_of_hasText htext).trans (mapError_eq_ok.mpr hparse)

theorem loads_configurationIn (tree : FileTree) (directory : Path) :
    tree.Loads directory (tree.configurationIn directory) where
  missing := isMissing_iff
  standard := configurationIn_eq_standard_iff
  text := fun _ htext => configurationIn_of_hasText htext
  otherwise := by
    intro hthere hnotext
    rcases hasText_or_isMissing_or_refuses tree (configPath directory) with
      ⟨text, htext⟩ | hmissing | ⟨cause, hrefuses⟩
    · exact absurd htext (hnotext text)
    · exact absurd hmissing hthere
    · exact ⟨cause, hrefuses, hrefuses.readText_eq, configurationIn_of_refuses hrefuses⟩

end FileTree

section Sessions

variable {π : Type} [Prompter π]

/-- A faulty configuration ends the command, unless the destination is taken, and leaves the
    prompter as it was. -/
theorem generateConfigured_of_configuration_eq_error {fault : Fault} {session : Session Disk π}
    (hfault : session.store.tree.configuration = .error fault) (destination : Path) :
    ∃ log, (generateConfigured destination : SessionM Disk π Outcome) session =
      .error (if session.store.tree.names destination then .destinationExists destination
        else fault) { session with log := log } := by
  rw [generateConfigured_eq_settle]
  by_cases hnames : session.store.tree.names destination = true
  · simp only [configuredEffect, if_pos hnames, Session.settle]
    exact ⟨_, rfl⟩
  · simp only [configuredEffect, if_neg hnames, hfault, Session.settle]
    exact ⟨_, rfl⟩

/-- **The standard configuration stands in for one that is missing, and for nothing else.**
    Loading leaves all but the log as it was; and when it ends the command, the prompter has not
    been used. -/
theorem loadConfig_falls_back_only_when_missing (directory : Path) (session : Session Disk π) :
    ∃ log result, (loadConfig directory : SessionM Disk π Config) session =
        Session.settle { session with log := log } result ∧
      session.store.tree.Loads directory result ∧
      ∀ fault, result = .error fault → directory = session.store.tree.workingPath →
        ∀ destination, ∃ log,
          (generateConfigured destination : SessionM Disk π Outcome) session =
            .error (if session.store.tree.names destination then .destinationExists destination
              else fault) { session with log := log } := by
  refine ⟨_, session.store.tree.configurationIn directory, loadConfig_eq_settle directory session,
    FileTree.loads_configurationIn _ directory, ?_⟩
  rintro fault hfault rfl destination
  exact generateConfigured_of_configuration_eq_error hfault destination

end Sessions

end PlanScaffold
