/-
  PlanScaffold/Proofs/Operations.lean
  ===================================
  **Operations, one after another.**

  Whoever has a session may do more in it than generate one skeleton: look at the store, put a text
  into it, ask for single answers or for all of them.  An `Operation` is one of these things, and a
  `history` is what comes of a number of them in one session, where an operation that fails
  does not keep the next one from being tried.
-/
import PlanScaffold.Proofs.Program

namespace PlanScaffold

/-! ### Operations -/

/-- Something that can be done in a session. -/
inductive Operation where
  | taken (path : Path)
  | create (path : Path) (content : String)
  | ensureAvailable (destination : Path)
  | ask (prompt : String)
  | collectName
  | collectTokens (prompt : String) (casing : Casing) (policy : EmptyTokens)
  | collectAnswers (policy : EmptyTokens)
  | generate (destination : Path) (policy : EmptyTokens)
deriving DecidableEq, Repr

/-- What an operation gives back. -/
inductive Operation.Value where
  | nothing
  | flag (holds : Bool)
  | text (answer : String)
  | name (name : EntityName)
  | tokens (tokens : List String)
  | answers (answers : Answers)
  | outcome (outcome : Outcome)
deriving DecidableEq, Repr

namespace Operation

def perform {m : Type → Type} [Monad m] [MonadExceptOf Fault m] [Workplace m] :
    Operation → m Value
  | .taken path => do return .flag (← Workplace.taken path)
  | .create path content => do
    Workplace.create path content
    return .nothing
  | .ensureAvailable destination => do
    PlanScaffold.ensureAvailable destination
    return .nothing
  | .ask prompt => do return .text (← Workplace.ask prompt)
  | .collectName => do return .name (← PlanScaffold.collectName)
  | .collectTokens prompt casing policy => do
    return .tokens (← PlanScaffold.collectTokens prompt casing policy)
  | .collectAnswers policy => do return .answers (← PlanScaffold.collectAnswers policy)
  | .generate destination policy => do
    return .outcome (← PlanScaffold.generate destination policy)

/-- The path at which an operation uses the store, if it does. -/
def path? : Operation → Option Path
  | .taken path => some path
  | .create path _ => some path
  | .ensureAvailable destination => some destination
  | .generate destination _ => some destination
  | _ => none

theorem runIn_perform {σ π : Type} [SkeletonStore σ] [Prompter π] (operation : Operation) :
    (operation.perform : Program Value).runIn = (operation.perform : SessionM σ π Value) := by
  cases operation <;>
    simp only [perform, Program.runIn_bind, Program.runIn_pure, Program.runIn_taken,
      Program.runIn_create, Program.runIn_ensureAvailable, Program.runIn_ask,
      Program.runIn_collectName, Program.runIn_collectTokens, Program.runIn_collectAnswers,
      Program.runIn_generate]

end Operation

/-! ### Sessions -/

namespace Session

variable {σ π α : Type}

/-- How a computation ends within a session, and the session after it. -/
def within (session : Session σ π) (action : SessionM σ π α) : Except Fault α × Session σ π :=
  match action session with
  | .ok value after => (.ok value, after)
  | .error fault after => (.error fault, after)

theorem within_of_settle {session after : Session σ π} {action : SessionM σ π α}
    {result : Except Fault α} (haction : action session = after.settle result) :
    session.within action = (result, after) := by
  rw [within, haction]
  cases result <;> rfl

variable [SkeletonStore σ] [Prompter π]

theorem within_runIn (program : Program α) (session : Session σ π) :
    ∃ log, session.within program.runIn =
      ((program.effect session.store session.prompter).1,
        { session with
          store := (program.effect session.store session.prompter).2.1
          prompter := (program.effect session.store session.prompter).2.2
          log := log }) := by
  obtain ⟨log, hlog⟩ := program.runIn_eq_settle session
  exact ⟨log, within_of_settle hlog⟩

/-- What comes of operations in a session, one after another: every result, with the session after
    it. -/
def history (session : Session σ π) :
    List Operation → List (Except Fault Operation.Value × Session σ π)
  | [] => []
  | operation :: rest =>
    session.within operation.perform :: history (session.within operation.perform).2 rest

end Session

end PlanScaffold
