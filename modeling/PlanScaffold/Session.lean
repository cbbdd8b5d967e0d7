/-
  PlanScaffold/Session.lean
  =========================
  **The surroundings of a run.**

  The generator is written against two small interfaces: a place to keep the
  skeleton and to ask for answers (`Workplace`), and a directory with a configuration file
  (`ConfigHost`).  A `Session` provides them by pure values: a store, a prompter and a log that
  keeps the events which its threshold shows.  A fault ends a run but undoes nothing, so
  the session after it shows all that was asked, kept and reported.
-/
import PlanScaffold.Log
import PlanScaffold.Prompter
import PlanScaffold.Store.Disk

namespace PlanScaffold

/-- What the generator needs around it. -/
class Workplace (m : Type → Type) where
  /-- Whether a path is taken. -/
  taken : Path → m Bool
  /-- Puts a text at a free path. -/
  create : Path → String → m Unit
  /-- Asks for an answer. -/
  ask : String → m String
  /-- Reports an event. -/
  note : Event → m Unit

/-- What loading a configuration needs around it. -/
class ConfigHost (m : Type → Type) where
  /-- The directory in which the command runs. -/
  workingDirectory : m Path
  /-- The text of a file, or why it cannot be had. -/
  readText : Path → m (Except IoFault String)

/-- A store, a prompter, and the events shown so far. -/
structure Session (σ π : Type) where
  store : σ
  prompter : π
  threshold : Threshold := .standard
  log : List Event := []

/-- The session after some events: its log keeps those that the threshold shows. -/
def Session.reporting {σ π : Type} (session : Session σ π) (events : List Event) : Session σ π :=
  { session with log := session.log ++ events.filter (Event.passes session.threshold) }

/-- What is reported while a text is put into a store: that a part of it is still there after a
    failure. -/
def creationEvents {σ : Type} [SkeletonStore σ] (store : σ) (path : Path) (content : String) :
    List Event :=
  (SkeletonStore.leftBehind? store path content).toList.map (.partLeft path)

/-- A computation within a session, which may end with a fault. -/
abbrev SessionM (σ π : Type) := EStateM Fault (Session σ π)

namespace Session

variable {σ π : Type}

/-- Continues a session with the outcome of one of its parts. -/
def settle {α : Type} (session : Session σ π) :
    Except Fault α → EStateM.Result Fault (Session σ π) α
  | .ok value => .ok value session
  | .error fault => .error fault session

instance [SkeletonStore σ] [Prompter π] : Workplace (SessionM σ π) where
  taken path := fun session => .ok (SkeletonStore.holds session.store path) session
  create path content := fun session =>
    let (result, store) := SkeletonStore.create session.store path content
    let reported := creationEvents session.store path content
    settle ({ session with store }.reporting reported) result
  ask prompt := fun session =>
    let (result, prompter) := Prompter.ask session.prompter prompt
    settle { session with prompter } result
  note event := fun session => .ok () (session.reporting [event])

instance : ConfigHost (SessionM Disk π) where
  workingDirectory := fun session =>
    .ok ⟨"/" ++ "/".intercalate session.store.tree.workingDirectory⟩ session
  readText path := fun session => .ok (session.store.tree.readText path) session

end Session

end PlanScaffold
