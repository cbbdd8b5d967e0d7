/-
  PlanScaffold/Proofs/Program.lean
  ================================
  **The generator as a tree of requests.**

  The generator is written for any surroundings.  Among them is one that carries nothing out: a
  `Program` is what the generator still has to do, either its end or its next request together
  with what follows each reply.  It shows where the generator can be interrupted, and what is true
  of all surroundings can be proved by one induction on the tree.

  `runIn` carries a program out within a session.  For the generator, this is the generator
  itself (`runIn_generate`), so nothing is said of a program that is not said of the code.

  What a program does, its reports aside, is its `effect` on a store and a prompter, and its `calls`
  tell in which order it does so.  Its `events` are reported by itself or by the store.  The threshold
  of a session has no part in any of these: it only decides which of the events the log keeps
  (`runIn_eq`).
-/
import PlanScaffold.Generate

namespace PlanScaffold

namespace Session

variable {σ π α β : Type} {first : SessionM σ π α} {rest : α → SessionM σ π β}
  {handle : Fault → SessionM σ π α} {session after : Session σ π}

theorem reporting_nil (session : Session σ π) : session.reporting [] = session := by
  simp [reporting]

theorem reporting_append (session : Session σ π) (first second : List Event) :
    session.reporting (first ++ second) = (session.reporting first).reporting second := by
  simp [reporting]

theorem bind_of_ok {value : α} (hfirst : first session = .ok value after) :
    (first >>= rest) session = rest value after := by
  show EStateM.bind first rest session = _
  simp only [EStateM.bind, hfirst]

theorem bind_of_error {fault : Fault} (hfirst : first session = .error fault after) :
    (first >>= rest) session = .error fault after := by
  show EStateM.bind first rest session = _
  simp only [EStateM.bind, hfirst]

theorem tryCatch_of_ok {value : α} (hfirst : first session = .ok value after) :
    (tryCatch first handle : SessionM σ π α) session = .ok value after := by
  show EStateM.tryCatch first handle session = _
  delta EStateM.tryCatch
  rw [hfirst]

theorem tryCatch_of_error {fault : Fault} (hfirst : first session = .error fault after) :
    (tryCatch first handle : SessionM σ π α) session = handle fault after := by
  show EStateM.tryCatch first handle session = _
  delta EStateM.tryCatch
  rw [hfirst]
  rfl

end Session

/-- What a computation still has to do. -/
inductive Program (α : Type) where
  | done (result : Except Fault α)
  | taken (path : Path) (next : Bool → Program α)
  | create (path : Path) (content : String) (next : Except Fault Unit → Program α)
  | ask (prompt : String) (next : Except Fault String → Program α)
  | note (event : Event) (next : Program α)

namespace Program

variable {α β : Type}

/-- One thing that a program has done. -/
inductive Call where
  | taken (path : Path)
  | create (path : Path) (content : String)
  | ask (prompt : String)
  | note (event : Event)
deriving DecidableEq

/-! ### Programs as surroundings -/

protected def bind (first : Program α) (rest : α → Program β) : Program β :=
  match first with
  | .done (.ok value) => rest value
  | .done (.error fault) => .done (.error fault)
  | .taken path next => .taken path fun reply => (next reply).bind rest
  | .create path content next => .create path content fun reply => (next reply).bind rest
  | .ask prompt next => .ask prompt fun reply => (next reply).bind rest
  | .note event next => .note event (next.bind rest)

protected def tryCatch (first : Program α) (handle : Fault → Program α) : Program α :=
  match first with
  | .done (.ok value) => .done (.ok value)
  | .done (.error fault) => handle fault
  | .taken path next => .taken path fun reply => (next reply).tryCatch handle
  | .create path content next => .create path content fun reply => (next reply).tryCatch handle
  | .ask prompt next => .ask prompt fun reply => (next reply).tryCatch handle
  | .note event next => .note event (next.tryCatch handle)

instance : Monad Program where
  pure value := .done (.ok value)
  bind := Program.bind

instance : MonadExceptOf Fault Program where
  throw fault := .done (.error fault)
  tryCatch := Program.tryCatch

instance : Workplace Program where
  taken path := .taken path fun reply => .done (.ok reply)
  create path content := .create path content .done
  ask prompt := .ask prompt .done
  note event := .note event (.done (.ok ()))

/-! ### Programs within a session -/

section Sessions

variable {σ π : Type} [SkeletonStore σ] [Prompter π]

/-- The program, carried out within a session. -/
def runIn : Program α → SessionM σ π α
  | .done result => fun session => session.settle result
  | .taken path next => fun session =>
    (next (SkeletonStore.holds session.store path)).runIn session
  | .create path content next => fun session =>
    let (result, store) := SkeletonStore.create session.store path content
    let reported := creationEvents session.store path content
    (next result).runIn ({ session with store }.reporting reported)
  | .ask prompt next => fun session =>
    let (answer, prompter) := Prompter.ask session.prompter prompt
    (next answer).runIn { session with prompter }
  | .note event next => fun session => next.runIn (session.reporting [event])

theorem runIn_pure (value : α) :
    (pure value : Program α).runIn = (pure value : SessionM σ π α) := rfl

theorem runIn_bind (first : Program α) (rest : α → Program β) :
    (first >>= rest).runIn =
      (first.runIn >>= fun value => (rest value).runIn : SessionM σ π β) := by
  induction first with
  | done result => cases result <;> rfl
  | taken path next ih =>
    funext session
    exact congrFun (ih _) session
  | create path content next ih =>
    funext session
    exact congrFun (ih _) _
  | ask prompt next ih =>
    funext session
    exact congrFun (ih _) _
  | note event next ih =>
    funext session
    exact congrFun ih _

theorem runIn_taken (path : Path) :
    (Workplace.taken path : Program Bool).runIn =
      (Workplace.taken path : SessionM σ π Bool) := rfl

theorem runIn_create (path : Path) (content : String) :
    (Workplace.create path content : Program Unit).runIn =
      (Workplace.create path content : SessionM σ π Unit) := rfl

theorem runIn_ask (prompt : String) :
    (Workplace.ask prompt : Program String).runIn =
      (Workplace.ask prompt : SessionM σ π String) := rfl

theorem runIn_note (event : Event) :
    (Workplace.note event : Program Unit).runIn =
      (Workplace.note event : SessionM σ π Unit) := rfl

theorem runIn_collectName :
    (collectName : Program EntityName).runIn = (collectName : SessionM σ π EntityName) := by
  unfold collectName
  rw [runIn_bind, runIn_ask]
  congr 1
  funext answer
  cases nameIn answer <;> rfl

theorem runIn_collectTokens (prompt : String) (casing : Casing) (policy : EmptyTokens) :
    (collectTokens prompt casing policy : Program (List String)).runIn =
      (collectTokens prompt casing policy : SessionM σ π (List String)) := by
  unfold collectTokens
  rw [runIn_bind, runIn_ask]
  congr 1
  funext answer
  dsimp only
  split
  · rw [runIn_bind, runIn_note]
    rfl
  · rfl

theorem runIn_collectAnswers (policy : EmptyTokens) :
    (collectAnswers policy : Program Answers).runIn =
      (collectAnswers policy : SessionM σ π Answers) := by
  unfold collectAnswers
  simp only [runIn_bind, runIn_collectName, runIn_collectTokens, runIn_note, runIn_pure]

theorem runIn_ensureAvailable (destination : Path) :
    (ensureAvailable destination : Program Unit).runIn =
      (ensureAvailable destination : SessionM σ π Unit) := by
  unfold ensureAvailable
  rw [runIn_bind, runIn_taken]
  congr 1
  funext reply
  cases reply <;> rfl

/-- Carrying the generator's program out is running the generator. -/
theorem runIn_generate (destination : Path) (policy : EmptyTokens) :
    (generate destination policy : Program Outcome).runIn =
      (generate destination policy : SessionM σ π Outcome) := by
  unfold generate
  rw [runIn_bind, runIn_ensureAvailable]
  congr 1
  funext _
  dsimp only
  split <;>
    simp only [runIn_bind, runIn_collectAnswers, runIn_note, runIn_create, runIn_pure]

end Sessions

/-! ### What programs do -/

section Outcomes

variable {σ π : Type} [SkeletonStore σ] [Prompter π]

/-- How the program ends with a prompter where every path is free and every file can be made,
    and the prompter after it. -/
def outcome : Program α → π → Except Fault α × π
  | .done result, prompter => (result, prompter)
  | .taken _ next, prompter => (next false).outcome prompter
  | .create _ _ next, prompter => (next (.ok ())).outcome prompter
  | .ask prompt next, prompter =>
    (next (Prompter.ask prompter prompt).1).outcome (Prompter.ask prompter prompt).2
  | .note _ next, prompter => next.outcome prompter

theorem outcome_bind (first : Program α) (rest : α → Program β) (prompter : π) :
    (first >>= rest).outcome prompter =
      match first.outcome prompter with
      | (.ok value, prompter) => (rest value).outcome prompter
      | (.error fault, prompter) => (.error fault, prompter) := by
  induction first generalizing prompter with
  | done result => cases result <;> rfl
  | taken path next ih => exact ih false prompter
  | create path content next ih => exact ih (.ok ()) prompter
  | ask prompt next ih => exact ih _ _
  | note event next ih => exact ih prompter

/-- What the program does to a store and a prompter, the log aside. -/
def effect : Program α → σ → π → Except Fault α × σ × π
  | .done result, store, prompter => (result, store, prompter)
  | .taken path next, store, prompter =>
    (next (SkeletonStore.holds store path)).effect store prompter
  | .create path content next, store, prompter =>
    (next (SkeletonStore.create store path content).1).effect
      (SkeletonStore.create store path content).2 prompter
  | .ask prompt next, store, prompter =>
    (next (Prompter.ask prompter prompt).1).effect store (Prompter.ask prompter prompt).2
  | .note _ next, store, prompter => next.effect store prompter

theorem effect_bind (first : Program α) (rest : α → Program β) (store : σ) (prompter : π) :
    (first >>= rest).effect store prompter =
      match first.effect store prompter with
      | (.ok value, store, prompter) => (rest value).effect store prompter
      | (.error fault, store, prompter) => (.error fault, store, prompter) := by
  induction first generalizing store prompter with
  | done result => cases result <;> rfl
  | taken path next ih => exact ih _ store prompter
  | create path content next ih => exact ih _ _ prompter
  | ask prompt next ih => exact ih _ store _
  | note event next ih => exact ih store prompter

/-- What the program has done, on a store and with a prompter, from the first to the last. -/
def calls : Program α → σ → π → List Call
  | .done _, _, _ => []
  | .taken path next, store, prompter =>
    .taken path :: (next (SkeletonStore.holds store path)).calls store prompter
  | .create path content next, store, prompter =>
    .create path content :: (next (SkeletonStore.create store path content).1).calls
      (SkeletonStore.create store path content).2 prompter
  | .ask prompt next, store, prompter =>
    .ask prompt :: (next (Prompter.ask prompter prompt).1).calls store
      (Prompter.ask prompter prompt).2
  | .note event next, store, prompter => .note event :: next.calls store prompter

/-- What is reported while the program is carried out, by itself or by the store. -/
def events : Program α → σ → π → List Event
  | .done _, _, _ => []
  | .taken path next, store, prompter =>
    (next (SkeletonStore.holds store path)).events store prompter
  | .create path content next, store, prompter =>
    creationEvents store path content ++
      (next (SkeletonStore.create store path content).1).events
        (SkeletonStore.create store path content).2 prompter
  | .ask prompt next, store, prompter =>
    (next (Prompter.ask prompter prompt).1).events store (Prompter.ask prompter prompt).2
  | .note event next, store, prompter => event :: next.events store prompter

/-- Within a session, a program has its effect on the store and the prompter, and reports its
    events. -/
theorem runIn_eq (program : Program α) (session : Session σ π) :
    program.runIn session =
      Session.settle
        (Session.reporting
          { session with
            store := (program.effect session.store session.prompter).2.1
            prompter := (program.effect session.store session.prompter).2.2 }
          (program.events session.store session.prompter))
        (program.effect session.store session.prompter).1 := by
  induction program generalizing session with
  | done result =>
    show session.settle result = Session.settle (session.reporting []) result
    rw [Session.reporting_nil]
  | taken path next ih => exact ih _ session
  | create path content next ih =>
    have hevents : (create path content next).events session.store session.prompter =
        creationEvents session.store path content ++
          (next (SkeletonStore.create session.store path content).1).events
            (SkeletonStore.create session.store path content).2 session.prompter := rfl
    show (next _).runIn (Session.reporting _ _) = _
    rw [ih, hevents, Session.reporting_append]
    rfl
  | ask prompt next ih =>
    exact ih _ { session with prompter := (Prompter.ask session.prompter prompt).2 }
  | note event next ih =>
    have hevents : (note event next).events session.store session.prompter =
        [event] ++ next.events session.store session.prompter := rfl
    show next.runIn (session.reporting [event]) = _
    rw [ih, hevents, Session.reporting_append]
    rfl

theorem runIn_eq_settle (program : Program α) (session : Session σ π) :
    ∃ log, program.runIn session =
      Session.settle
        { session with
          store := (program.effect session.store session.prompter).2.1
          prompter := (program.effect session.store session.prompter).2.2
          log := log }
        (program.effect session.store session.prompter).1 :=
  ⟨_, program.runIn_eq session⟩

end Outcomes

end Program

end PlanScaffold
