/-
  PlanScaffold/Command.lean
  =========================
  **The command from its arguments to its end.**

  `perform` is the command in any surroundings; `run` is the same command on a given disk and a
  given input, and gives back everything that can be observed of it.
-/
import PlanScaffold.CommandLine
import PlanScaffold.Generate

namespace PlanScaffold

/-- How a command ends: its exit code, and the last texts it writes for its user and
    about its failure. -/
structure Ending where
  code : Nat
  output : String := ""
  complaint : String := ""
deriving DecidableEq, Repr

def Ending.success (outcome : Outcome) : Ending :=
  { code := 0, output := "File written to " ++ outcome.path.text ++ "\n" }

def Ending.failure (fault : Fault) (wording : ConfigFault → String := ConfigFault.message) :
    Ending :=
  { code := 1, complaint := "Error: " ++ fault.message wording ++ "\n" }

def perform {m : Type → Type} [Monad m] [MonadExceptOf Fault m] [Workplace m] [ConfigHost m]
    (arguments : List String) (wording : ConfigFault → String := ConfigFault.message) : m Ending :=
  match CommandLine.parse arguments with
  | .help => pure { code := 0, output := CommandLine.helpText }
  | .version => pure { code := 0, output := CommandLine.versionText }
  | .refuse fault => pure { code := 2, complaint := CommandLine.faultText fault }
  | .generate destination =>
    tryCatch (do return .success (← generateConfigured destination))
      fun fault => pure (.failure fault wording)

/-- All that can be observed of a command: its exit code, what it wrote to its user, the events
    in its log, the reason of its failure, the input it left, and the disk. -/
structure Report where
  code : Nat
  output : String
  log : List Event
  complaint : String
  unread : Bytes
  disk : Disk
deriving DecidableEq, Repr

/-- What a command writes about itself: its log, and then the reason of its failure. -/
def Report.errorText (report : Report) : String := logText report.log ++ report.complaint

def Report.ofEnding (ending : Ending) (session : Session Disk Terminal) : Report :=
  { code := ending.code
    output := session.prompter.written ++ ending.output
    log := session.log
    complaint := ending.complaint
    unread := session.prompter.input
    disk := session.store }

/-- The command with some arguments, on some input and disk, with a threshold for its log and a
    wording for the faults of a configuration. -/
def run (threshold : Threshold) (arguments : List String) (input : Bytes) (disk : Disk)
    (wording : ConfigFault → String := ConfigFault.message) : Report :=
  let command : SessionM Disk Terminal Ending := perform arguments wording
  match command.run { store := disk, prompter := { input }, threshold } with
  | .ok ending session => .ofEnding ending session
  | .error fault session => .ofEnding (.failure fault wording) session

end PlanScaffold
