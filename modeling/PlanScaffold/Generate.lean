/-
  PlanScaffold/Generate.lean
  ==========================
  **Generating a skeleton.**

  The four answers are collected in a fixed order.  A destination that is taken is refused
  before anything is asked, and nothing is kept unless every answer was given.
-/
import PlanScaffold.Session
import PlanScaffold.Skeleton

namespace PlanScaffold

open Workplace

variable {m : Type → Type} [Monad m] [MonadExceptOf Fault m] [Workplace m]

/-! ### Collecting answers -/

def namePrompt : String := "Name"

def typesPrompt : String := "Types (separated by space)"

def predicatesPrompt : String := "Predicates (separated by space)"

def actionsPrompt : String := "Actions (separated by space)"

/-- All prompts, in the order in which they are shown. -/
def prompts : List String := [namePrompt, typesPrompt, predicatesPrompt, actionsPrompt]

/-- The name in an answer, or the fault of a blank one. -/
def nameIn (answer : String) : Except Fault EntityName :=
  match EntityName.ofAnswer? answer with
  | some name => .ok name
  | none => .error (.emptyInput "Name")

def collectName : m EntityName := do
  match nameIn (← ask namePrompt) with
  | .ok name => pure name
  | .error fault => throw fault

/-- Asks for a list of tokens. -/
def collectTokens (prompt : String) (casing : Casing) (policy : EmptyTokens) :
    m (List String) := do
  let tokens := tokenize (← ask prompt) casing policy
  if tokens.contains "" then note (.emptyTokens prompt)
  pure tokens

/-- Asks for everything a skeleton needs. -/
def collectAnswers (policy : EmptyTokens) : m Answers := do
  let name ← collectName
  let types ← collectTokens typesPrompt .title policy
  let predicates ← collectTokens predicatesPrompt .lower policy
  let actions ← collectTokens actionsPrompt .lower policy
  note (.collected name.text types.length predicates.length actions.length)
  pure { name, types, predicates, actions }

/-! ### Writing the skeleton -/

/-- Where a skeleton was put, and its size. -/
structure Outcome where
  path : Path
  bytesWritten : Nat
deriving DecidableEq, Repr

def ensureAvailable (destination : Path) : m Unit := do
  if ← taken destination then throw (.destinationExists destination)

/-- Generates a skeleton at a free destination. -/
def generate (destination : Path) (policy : EmptyTokens) : m Outcome := do
  ensureAvailable destination
  if !destination.isPythonModule then note (.noPythonSuffix destination)
  let answers ← collectAnswers policy
  let text := Skeleton.render answers
  note (.rendered text.utf8ByteSize)
  create destination text
  note (.written destination)
  pure ⟨destination, text.utf8ByteSize⟩

/-! ### Configuration -/

def configFileName : String := "py2pddl.toml"

/-- The configuration of a directory: the one in its file, or the standard one if there is no
    such file. -/
def loadConfig [ConfigHost m] (directory : Path) : m Config := do
  let path := directory.child configFileName
  match ← ConfigHost.readText path with
  | .error cause =>
    if cause.kind = .notFound then
      note (.noConfigFile path)
      pure .standard
    else throw (.io cause)
  | .ok text =>
    note (.loadingConfig path)
    match Config.parse text with
    | .ok config => pure config
    | .error cause => throw (.config cause)

/-- Generates a skeleton with the configuration of the working directory, which is not read if the
    destination is taken. -/
def generateConfigured [ConfigHost m] (destination : Path) : m Outcome := do
  ensureAvailable destination
  let config ← loadConfig (← ConfigHost.workingDirectory)
  generate destination config.emptyTokens

end PlanScaffold
