/-
  PlanScaffold/Proofs/Generate.lean
  =================================
  **What generating a skeleton comes to.**

  The generator is told here by what it does to a store and a prompter, stage after stage.  A
  destination that is taken ends it at once (`effect_generate_of_holds`); otherwise the answers are
  asked for, and only a complete description is put into the store (`effect_generate_of_free`).

  With a configuration, which the tree of a disk determines (`FileTree.configuration`), the same is
  said of the whole, together with all that it reports (`generateConfigured_eq_settle`).
-/
import PlanScaffold.Proofs.Disk.Creation
import PlanScaffold.Proofs.Requests

namespace PlanScaffold

/-! ### Collecting answers -/

section Prompters

variable {π : Type} [Prompter π]

theorem outcome_ask (prompt : String) (prompter : π) :
    (Workplace.ask prompt : Program String).outcome prompter = Prompter.ask prompter prompt := rfl

theorem outcome_collectName (prompter : π) :
    (collectName : Program EntityName).outcome prompter =
      ((Prompter.ask prompter namePrompt).1.bind nameIn,
        (Prompter.ask prompter namePrompt).2) := by
  unfold collectName
  rw [Program.outcome_bind, outcome_ask]
  rcases Prompter.ask prompter namePrompt with ⟨fault | answer, after⟩
  · rfl
  · dsimp only [Except.bind]
    cases nameIn answer <;> rfl

theorem outcome_collectTokens (prompt : String) (casing : Casing) (policy : EmptyTokens)
    (prompter : π) :
    (collectTokens prompt casing policy : Program (List String)).outcome prompter =
      ((Prompter.ask prompter prompt).1.map fun answer => tokenize answer casing policy,
        (Prompter.ask prompter prompt).2) := by
  unfold collectTokens
  rw [Program.outcome_bind, outcome_ask]
  rcases Prompter.ask prompter prompt with ⟨fault | answer, after⟩
  · rfl
  · dsimp only
    split <;> rfl

end Prompters

section Stores

variable {σ π : Type} [SkeletonStore σ] [Prompter π] {destination : Path} {store : σ}

/-! ### The generator -/

theorem effect_ensureAvailable (destination : Path) (store : σ) (prompter : π) :
    (ensureAvailable destination : Program Unit).effect store prompter =
      (if SkeletonStore.holds store destination then .error (.destinationExists destination)
        else .ok (), store, prompter) := by
  show Program.effect (if SkeletonStore.holds store destination then _ else _) store prompter = _
  cases SkeletonStore.holds store destination <;> rfl

theorem effect_create (path : Path) (content : String) (store : σ) (prompter : π) :
    (Workplace.create path content : Program Unit).effect store prompter =
      ((SkeletonStore.create store path content).1,
        (SkeletonStore.create store path content).2, prompter) := rfl

theorem effect_generate_of_holds (htaken : SkeletonStore.holds store destination = true)
    (policy : EmptyTokens) (prompter : π) :
    (generate destination policy : Program Outcome).effect store prompter =
      (.error (.destinationExists destination), store, prompter) := by
  rw [generate_eq, Program.effect, htaken]
  rfl

theorem effect_keep (destination : Path) (answers : Answers) (store : σ) (prompter : π) :
    (keep destination answers).effect store prompter =
      ((SkeletonStore.create store destination (Skeleton.render answers)).1.map
          fun _ => ⟨destination, (Skeleton.render answers).utf8ByteSize⟩,
        (SkeletonStore.create store destination (Skeleton.render answers)).2, prompter) := by
  have hcreated : ∀ result : Except Fault Unit,
      Program.effect (Program.bind (.done result) fun _ => do
        Workplace.note (.written destination)
        pure ⟨destination, (Skeleton.render answers).utf8ByteSize⟩)
        (SkeletonStore.create store destination (Skeleton.render answers)).2 prompter =
      (result.map fun _ => (⟨destination, (Skeleton.render answers).utf8ByteSize⟩ : Outcome),
        (SkeletonStore.create store destination (Skeleton.render answers)).2, prompter) := by
    intro result
    cases result <;> rfl
  exact hcreated _

/-- At a free destination, only a complete description is put into the store. -/
theorem effect_generate_of_free (hfree : SkeletonStore.holds store destination = false)
    (policy : EmptyTokens) (prompter : π) :
    (generate destination policy : Program Outcome).effect store prompter =
      match (collectAnswers policy : Program Answers).outcome prompter with
      | (.ok answers, prompter) => (keep destination answers).effect store prompter
      | (.error fault, prompter) => (.error fault, store, prompter) := by
  have hdescribe : (collectAnswers policy >>= keep destination).effect store prompter =
      match (collectAnswers policy : Program Answers).outcome prompter with
      | (.ok answers, prompter) => (keep destination answers).effect store prompter
      | (.error fault, prompter) => (.error fault, store, prompter) := by
    rw [Program.effect_bind,
      Program.effect_of_sparesStore (Program.sparesStore_collectAnswers policy)]
    rcases (collectAnswers policy : Program Answers).outcome prompter with ⟨_ | _, _⟩ <;> rfl
  rw [generate_eq, Program.effect, hfree]
  dsimp only
  -- the warning about the suffix makes no difference
  split <;> exact hdescribe

end Stores

section Disks

variable {π : Type} [Prompter π] {destination : Path} {disk : Disk}

/-! ### The generator on a disk -/

theorem effect_generate_of_room {place : Place} {policy : EmptyTokens} {prompter after : π}
    {answers : Answers} (hfree : disk.tree.freePlace destination = .ok place)
    (hanswers : (collectAnswers policy : Program Answers).outcome prompter = (.ok answers, after))
    (hfits : disk.fits (Skeleton.render answers).utf8ByteSize) :
    (generate destination policy : Program Outcome).effect disk prompter =
      (.ok ⟨destination, (Skeleton.render answers).utf8ByteSize⟩,
        disk.holding place (Utf8.encode (Skeleton.render answers)), after) := by
  have hcreate : SkeletonStore.create disk destination (Skeleton.render answers) =
      (.ok (), disk.holding place (Utf8.encode (Skeleton.render answers))) := by
    show disk.create destination (Skeleton.render answers) = _
    rw [Disk.create_eq, hfree]
    exact if_pos hfits
  rw [effect_generate_of_free (FileTree.not_names_of_freePlace hfree), hanswers]
  dsimp only
  rw [effect_keep, hcreate]
  rfl

/-! ### The configuration -/

/-- The configuration in a directory, or why there is none: a file that cannot be read, unless it
    is missing, or one whose text is no configuration. -/
def FileTree.configurationIn (tree : FileTree) (directory : Path) : Except Fault Config :=
  match tree.readText (directory.child configFileName) with
  | .error cause => if cause.kind = .notFound then .ok .standard else .error (.io cause)
  | .ok text => (Config.parse text).mapError .config

/-- The path of the directory in which a command runs. -/
def FileTree.workingPath (tree : FileTree) : Path :=
  ⟨"/" ++ "/".intercalate tree.workingDirectory⟩

def FileTree.configuration (tree : FileTree) : Except Fault Config :=
  tree.configurationIn tree.workingPath

/-- What is reported while the configuration of a directory is loaded. -/
def FileTree.configurationEvents (tree : FileTree) (directory : Path) : List Event :=
  match tree.readText (directory.child configFileName) with
  | .error cause =>
    if cause.kind = .notFound then [.noConfigFile (directory.child configFileName)] else []
  | .ok _ => [.loadingConfig (directory.child configFileName)]

/-- Loading a configuration only reads and reports. -/
theorem loadConfig_eq_settle (directory : Path) (session : Session Disk π) :
    (loadConfig directory : SessionM Disk π Config) session =
      Session.settle (session.reporting (session.store.tree.configurationEvents directory))
        (session.store.tree.configurationIn directory) := by
  have hread : (ConfigHost.readText (directory.child configFileName) :
      SessionM Disk π (Except IoFault String)) session =
        .ok (session.store.tree.readText (directory.child configFileName)) session :=
    rfl
  unfold FileTree.configurationIn FileTree.configurationEvents loadConfig
  rw [Session.bind_of_ok hread]
  cases session.store.tree.readText (directory.child configFileName) with
  | error cause =>
    dsimp only
    by_cases hmissing : cause.kind = .notFound
    · rw [if_pos hmissing, if_pos hmissing, if_pos hmissing]
      rfl
    · rw [if_neg hmissing, if_neg hmissing, if_neg hmissing, session.reporting_nil]
      rfl
  | ok text =>
    have hnoted : (Workplace.note (.loadingConfig (directory.child configFileName)) :
        SessionM Disk π Unit) session =
          .ok () (session.reporting [.loadingConfig (directory.child configFileName)]) :=
      rfl
    dsimp only
    rw [Session.bind_of_ok hnoted]
    cases Config.parse text <;> rfl

/-- What generating a skeleton with the configuration of the working directory does to a disk and
    a prompter, the log aside. -/
def configuredEffect (destination : Path) (disk : Disk) (prompter : π) :
    Except Fault Outcome × Disk × π :=
  if disk.tree.names destination then (.error (.destinationExists destination), disk, prompter)
  else
    match disk.tree.configuration with
    | .error fault => (.error fault, disk, prompter)
    | .ok config =>
      (generate destination config.emptyTokens : Program Outcome).effect disk prompter

/-- What is reported while this is done. -/
def configuredEvents (destination : Path) (disk : Disk) (prompter : π) : List Event :=
  if disk.tree.names destination then []
  else
    disk.tree.configurationEvents disk.tree.workingPath ++
      match disk.tree.configuration with
      | .error _ => []
      | .ok config =>
        (generate destination config.emptyTokens : Program Outcome).events disk prompter

theorem generateConfigured_eq_settle (destination : Path) (session : Session Disk π) :
    (generateConfigured destination : SessionM Disk π Outcome) session =
      Session.settle
        (Session.reporting
          { session with
            store := (configuredEffect destination session.store session.prompter).2.1
            prompter := (configuredEffect destination session.store session.prompter).2.2 }
          (configuredEvents destination session.store session.prompter))
        (configuredEffect destination session.store session.prompter).1 := by
  have hensure : (ensureAvailable destination : SessionM Disk π Unit) session =
      Session.settle session (if session.store.tree.names destination then
        .error (.destinationExists destination) else .ok ()) := by
    show (if session.store.tree.names destination = true then _ else _ :
      SessionM Disk π Unit) session = _
    cases session.store.tree.names destination <;> rfl
  have hdirectory : (ConfigHost.workingDirectory : SessionM Disk π Path) session =
      .ok session.store.tree.workingPath session := rfl
  unfold generateConfigured configuredEffect configuredEvents
  by_cases hnames : session.store.tree.names destination = true
  · rw [if_pos hnames] at hensure
    rw [if_pos hnames, if_pos hnames, Session.reporting_nil]
    exact Session.bind_of_error hensure
  · rw [if_neg hnames] at hensure
    rw [if_neg hnames, if_neg hnames, Session.bind_of_ok hensure, Session.bind_of_ok hdirectory]
    have hload := loadConfig_eq_settle session.store.tree.workingPath session
    rw [← FileTree.configuration] at hload
    cases hconfig : session.store.tree.configuration with
    | error fault =>
      rw [hconfig] at hload
      rw [List.append_nil]
      exact Session.bind_of_error hload
    | ok config =>
      rw [hconfig] at hload
      rw [Session.bind_of_ok hload, ← Program.runIn_generate, Program.runIn_eq,
        Session.reporting_append]
      rfl

end Disks

end PlanScaffold
