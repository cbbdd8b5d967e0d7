/-
  PlanScaffold/Proofs/Requests.lean
  =================================
  **Which requests the generator makes.**

  Much of what is said of the generator's programs is said of each of their requests.  Such a property
  holds of a program if it holds of its parts, and it is proved for all of the programs at once
  (`Compositional.perform`), from what they have in common: they ask, report details, and refuse a
  blank name or a destination that is taken.  Only at its destination a program looks at the store
  or changes it.

  The first of these properties is that all calls of a program are allowed, whatever the replies
  (`Program.Makes`).  A program that may only call its prompter, or report (`Call.SparesStore`), leaves
  every store as it is and has an outcome that depends on its prompter alone.
-/
import PlanScaffold.Proofs.Operations

namespace PlanScaffold

/-! ### Parts of the generator -/

/-- What is done with a complete description. -/
def keep (destination : Path) (answers : Answers) : Program Outcome := do
  let text := Skeleton.render answers
  Workplace.note (.rendered text.utf8ByteSize)
  Workplace.create destination text
  Workplace.note (.written destination)
  pure ⟨destination, text.utf8ByteSize⟩

/-- The generator's program from its first request on. -/
theorem generate_eq (destination : Path) (policy : EmptyTokens) :
    (generate destination policy : Program Outcome) =
      .taken destination fun
        | true => .done (.error (.destinationExists destination))
        | false =>
          if destination.isPythonModule then collectAnswers policy >>= keep destination
          else .note (.noPythonSuffix destination) (collectAnswers policy >>= keep destination) := by
  show Program.taken destination _ = _
  congr 1
  funext reply
  cases reply with
  | true => rfl
  | false => cases destination.isPythonModule <;> rfl

/-- The faults that the generator finds by itself. -/
def Fault.IsRefusal : Fault → Prop
  | .emptyInput _ | .destinationExists _ => True
  | _ => False

namespace Program

/-! ### Properties that are put together -/

/-- A property that programs have if their parts have it, and that they have if they do nothing but
    ask, report something that is no warning, or refuse. -/
structure Compositional (holds : (α : Type) → Program α → Prop) : Prop where
  pure : ∀ {α : Type} (value : α), holds α (pure value)
  refuse : ∀ {α : Type} {fault : Fault}, fault.IsRefusal → holds α (throw fault)
  bind : ∀ {α β : Type} {first : Program α} {rest : α → Program β}, holds α first →
    (∀ value, holds β (rest value)) → holds β (first >>= rest)
  ask : ∀ prompt, holds String (Workplace.ask prompt)
  note : ∀ event : Event, event.level ≠ .warn → holds Unit (Workplace.note event)

namespace Compositional

variable {holds : (α : Type) → Program α → Prop} (hholds : Compositional holds)

include hholds

theorem collectName : holds EntityName collectName := by
  apply hholds.bind (hholds.ask namePrompt)
  intro answer
  unfold nameIn
  cases EntityName.ofAnswer? answer with
  | none => exact hholds.refuse trivial
  | some name => exact hholds.pure name

theorem collectTokens (prompt : String) (casing : Casing) (policy : EmptyTokens) :
    holds (List String) (collectTokens prompt casing policy) := by
  apply hholds.bind (hholds.ask prompt)
  intro answer
  dsimp only
  split
  · exact hholds.bind (hholds.note (.emptyTokens prompt) nofun) fun _ => hholds.pure _
  · exact hholds.pure _

theorem collectAnswers (policy : EmptyTokens) : holds Answers (collectAnswers policy) := by
  apply hholds.bind hholds.collectName
  intro name
  apply hholds.bind (hholds.collectTokens _ _ _)
  intro types
  apply hholds.bind (hholds.collectTokens _ _ _)
  intro predicates
  apply hholds.bind (hholds.collectTokens _ _ _)
  intro actions
  exact hholds.bind (hholds.note (.collected ..) nofun) fun _ => hholds.pure _

variable {destination : Path} (htaken : holds Bool (Workplace.taken destination))
  (hcreate : ∀ content, holds Unit (Workplace.create destination content))

include htaken in
theorem ensureAvailable : holds Unit (ensureAvailable destination) := by
  apply hholds.bind htaken
  intro reply
  cases reply with
  | false => exact hholds.pure ()
  | true => exact hholds.refuse trivial

include hcreate in
theorem keep (answers : Answers) : holds Outcome (keep destination answers) := by
  apply hholds.bind (hholds.note (.rendered _) nofun)
  intro _
  apply hholds.bind (hcreate _)
  intro _
  exact hholds.bind (hholds.note (.written destination) nofun) fun _ => hholds.pure _

include hcreate in
theorem describe (policy : EmptyTokens) :
    holds Outcome (PlanScaffold.collectAnswers policy >>= PlanScaffold.keep destination) :=
  hholds.bind (hholds.collectAnswers policy) (hholds.keep hcreate)

include htaken hcreate in
theorem generate (hwarn : holds Unit (Workplace.note (.noPythonSuffix destination)))
    (policy : EmptyTokens) : holds Outcome (generate destination policy) := by
  apply hholds.bind (hholds.ensureAvailable htaken)
  intro _
  dsimp only
  split
  · exact hholds.bind hwarn fun _ => hholds.describe hcreate policy
  · exact hholds.describe hcreate policy

/-- An operation has the property if the requests for the path at which it uses the store have it. -/
theorem perform (operation : Operation)
    (htaken : ∀ path ∈ operation.path?, holds Bool (Workplace.taken path))
    (hcreate : ∀ path ∈ operation.path?, ∀ content, holds Unit (Workplace.create path content))
    (hwarn : ∀ path ∈ operation.path?, holds Unit (Workplace.note (.noPythonSuffix path))) :
    holds Operation.Value operation.perform := by
  cases operation with
  | taken path => exact hholds.bind (htaken path rfl) fun _ => hholds.pure _
  | create path content => exact hholds.bind (hcreate path rfl content) fun _ => hholds.pure _
  | ensureAvailable path =>
    exact hholds.bind (hholds.ensureAvailable (htaken path rfl)) fun _ => hholds.pure _
  | ask prompt => exact hholds.bind (hholds.ask prompt) fun _ => hholds.pure _
  | collectName => exact hholds.bind hholds.collectName fun _ => hholds.pure _
  | collectTokens prompt casing policy =>
    exact hholds.bind (hholds.collectTokens prompt casing policy) fun _ => hholds.pure _
  | collectAnswers policy =>
    exact hholds.bind (hholds.collectAnswers policy) fun _ => hholds.pure _
  | generate path policy =>
    exact hholds.bind
      (hholds.generate (htaken path rfl) (hcreate path rfl) (hwarn path rfl) policy)
      fun _ => hholds.pure _

end Compositional

/-! ### Calls that are allowed -/

variable {α β : Type} {allowed : Call → Prop}

/-- Whatever the replies, all that the program does is allowed. -/
def Makes (allowed : Call → Prop) : Program α → Prop
  | .done _ => True
  | .taken path next => allowed (.taken path) ∧ ∀ reply, (next reply).Makes allowed
  | .create path content next =>
    allowed (.create path content) ∧ ∀ reply, (next reply).Makes allowed
  | .ask prompt next => allowed (.ask prompt) ∧ ∀ reply, (next reply).Makes allowed
  | .note event next => allowed (.note event) ∧ next.Makes allowed

theorem makes_bind {first : Program α} {rest : α → Program β} (hfirst : first.Makes allowed)
    (hrest : ∀ value, (rest value).Makes allowed) : (first >>= rest).Makes allowed := by
  induction first with
  | done result =>
    cases result with
    | ok value => exact hrest value
    | error fault => exact trivial
  | taken path next ih => exact ⟨hfirst.1, fun reply => ih reply (hfirst.2 reply)⟩
  | create path content next ih => exact ⟨hfirst.1, fun reply => ih reply (hfirst.2 reply)⟩
  | ask prompt next ih => exact ⟨hfirst.1, fun reply => ih reply (hfirst.2 reply)⟩
  | note event next ih => exact ⟨hfirst.1, ih hfirst.2⟩

theorem compositional_makes (hask : ∀ prompt, allowed (.ask prompt))
    (hnote : ∀ event : Event, event.level ≠ .warn → allowed (.note event)) :
    Compositional fun _ program => program.Makes allowed where
  pure _ := trivial
  refuse _ := trivial
  bind := makes_bind
  ask prompt := ⟨hask prompt, fun _ => trivial⟩
  note event hevent := ⟨hnote event hevent, trivial⟩

theorem allowed_of_mem_calls {σ π : Type} [SkeletonStore σ] [Prompter π] {program : Program α}
    (hmakes : program.Makes allowed) {call : Call} {store : σ} {prompter : π}
    (hcall : call ∈ program.calls store prompter) : allowed call := by
  induction program generalizing store prompter with
  | done result => cases hcall
  | taken path next ih =>
    rcases List.mem_cons.mp hcall with rfl | hlater
    · exact hmakes.1
    · exact ih _ (hmakes.2 _) hlater
  | create path content next ih =>
    rcases List.mem_cons.mp hcall with rfl | hlater
    · exact hmakes.1
    · exact ih _ (hmakes.2 _) hlater
  | ask prompt next ih =>
    rcases List.mem_cons.mp hcall with rfl | hlater
    · exact hmakes.1
    · exact ih _ (hmakes.2 _) hlater
  | note event next ih =>
    rcases List.mem_cons.mp hcall with rfl | hlater
    · exact hmakes.1
    · exact ih hmakes.2 hlater

/-! ### Programs that spare the store -/

/-- The call neither looks at the store nor changes it. -/
def Call.SparesStore : Call → Prop
  | .taken _ | .create _ _ => False
  | .ask _ | .note _ => True

theorem compositional_sparesStore :
    Compositional fun _ program => program.Makes Call.SparesStore :=
  compositional_makes (fun _ => trivial) fun _ _ => trivial

theorem sparesStore_collectAnswers (policy : EmptyTokens) :
    (collectAnswers policy : Program Answers).Makes Call.SparesStore :=
  compositional_sparesStore.collectAnswers policy

theorem effect_of_sparesStore {σ π : Type} [SkeletonStore σ] [Prompter π] {program : Program α}
    (hspares : program.Makes Call.SparesStore) (store : σ) (prompter : π) :
    program.effect store prompter =
      ((program.outcome prompter).1, store, (program.outcome prompter).2) := by
  induction program generalizing prompter with
  | done result => rfl
  | taken path next ih => exact hspares.1.elim
  | create path content next ih => exact hspares.1.elim
  | ask prompt next ih => exact ih _ (hspares.2 _) _
  | note event next ih => exact ih hspares.2 prompter

end Program

/-- An operation without a path spares the store. -/
theorem Operation.sparesStore_perform {operation : Operation} (hpath : operation.path? = none) :
    (operation.perform : Program Operation.Value).Makes Program.Call.SparesStore := by
  have hnone : ∀ path, path ∉ operation.path? := by
    intro path hmem
    rw [hpath] at hmem
    cases hmem
  exact Program.compositional_sparesStore.perform operation
    (fun path hmem => absurd hmem (hnone path)) (fun path hmem => absurd hmem (hnone path))
    fun _ _ => ⟨trivial, trivial⟩

end PlanScaffold
