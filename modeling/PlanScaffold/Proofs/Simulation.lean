/-
  PlanScaffold/Proofs/Simulation.lean
  ===================================
  **Stores that cannot be told apart.**

  Two stores of different kinds may stand in for each other at some paths: they hold the same of
  these paths, and whatever is created at one of them, both give the same result, leave the same
  behind and can stand in for each other again (`Interchangeable`).  A program that looks at no other
  path (`Program.Call.StaysAt`) then cannot tell in which of the two sessions it runs, and neither
  can any history of operations: results, prompts and reports are the same (`history_endsSame`).
-/
import Mathlib.Data.List.Forall2
import PlanScaffold.Proofs.Requests

namespace PlanScaffold

/-- The call uses the store at allowed paths only. -/
def Program.Call.StaysAt (allowed : Path → Prop) : Program.Call → Prop
  | .taken path | .create path _ => allowed path
  | .ask _ | .note _ => True

theorem Operation.staysAt_perform {allowed : Path → Prop} {operation : Operation}
    (hpath : ∀ path ∈ operation.path?, allowed path) :
    (operation.perform : Program Operation.Value).Makes (Program.Call.StaysAt allowed) := by
  have hcalls : Program.Compositional fun _ program =>
      program.Makes (Program.Call.StaysAt allowed) :=
    Program.compositional_makes (fun _ => trivial) fun _ _ => trivial
  apply hcalls.perform
  · exact fun path hmem => ⟨hpath path hmem, fun _ => trivial⟩
  · exact fun path hmem _ => ⟨hpath path hmem, fun _ => trivial⟩
  · exact fun _ _ => ⟨trivial, trivial⟩

/-! ### Sessions with different stores -/

/-- The stores can stand in for each other at the allowed paths, for as long as they are used. -/
structure Interchangeable {σ τ : Type} [SkeletonStore σ] [SkeletonStore τ] (allowed : Path → Prop)
    (alike : σ → τ → Prop) : Prop where
  holds : ∀ {first second path}, alike first second → allowed path →
    SkeletonStore.holds first path = SkeletonStore.holds second path
  created : ∀ {first second path} (content : String), alike first second → allowed path →
    (SkeletonStore.create first path content).1 = (SkeletonStore.create second path content).1
  leftBehind? : ∀ {first second path} (content : String), alike first second → allowed path →
    SkeletonStore.leftBehind? first path content = SkeletonStore.leftBehind? second path content
  after : ∀ {first second path} (content : String), alike first second → allowed path →
    alike (SkeletonStore.create first path content).2 (SkeletonStore.create second path content).2

/-- Two sessions that differ in nothing but their stores, and these are alike. -/
structure Agree {σ τ π : Type} (alike : σ → τ → Prop) (first : Session σ π)
    (second : Session τ π) : Prop where
  stores : alike first.store second.store
  prompter : first.prompter = second.prompter
  threshold : first.threshold = second.threshold
  log : first.log = second.log

/-- The same result in sessions that agree. -/
structure EndsSame {σ τ π α : Type} (alike : σ → τ → Prop) (first : Except Fault α × Session σ π)
    (second : Except Fault α × Session τ π) : Prop where
  result : first.1 = second.1
  agree : Agree alike first.2 second.2

section Sessions

variable {σ τ π α : Type} {alike : σ → τ → Prop} {first : Session σ π} {second : Session τ π}

theorem Agree.reporting (hagree : Agree alike first second) (events : List Event) :
    Agree alike (first.reporting events) (second.reporting events) where
  stores := hagree.stores
  prompter := hagree.prompter
  threshold := hagree.threshold
  log := by rw [Session.reporting, Session.reporting, hagree.log, hagree.threshold]

variable [SkeletonStore σ] [SkeletonStore τ] [Prompter π] {allowed : Path → Prop}

theorem within_endsSame (hstores : Interchangeable allowed alike) {program : Program α}
    (hstays : program.Makes (Program.Call.StaysAt allowed)) (hagree : Agree alike first second) :
    EndsSame alike (first.within program.runIn) (second.within program.runIn) := by
  induction program generalizing first second with
  | done result => cases result <;> exact ⟨rfl, hagree⟩
  | taken path next ih =>
    show EndsSame alike (first.within (next (SkeletonStore.holds first.store path)).runIn)
      (second.within (next (SkeletonStore.holds second.store path)).runIn)
    rw [← hstores.holds hagree.stores hstays.1]
    exact ih _ (hstays.2 _) hagree
  | create path content next ih =>
    have hevents : creationEvents first.store path content =
        creationEvents second.store path content := by
      rw [creationEvents, creationEvents, hstores.leftBehind? content hagree.stores hstays.1]
    have hafter := hstores.after content hagree.stores hstays.1
    show EndsSame alike
      (Session.within (Session.reporting _ (creationEvents first.store path content))
        (next (SkeletonStore.create first.store path content).1).runIn)
      (Session.within (Session.reporting _ (creationEvents second.store path content))
        (next (SkeletonStore.create second.store path content).1).runIn)
    rw [← hstores.created content hagree.stores hstays.1, ← hevents]
    refine ih _ (hstays.2 _) (Agree.reporting ?_ _)
    exact ⟨hafter, hagree.prompter, hagree.threshold, hagree.log⟩
  | ask prompt next ih =>
    show EndsSame alike (Session.within _ (next (Prompter.ask first.prompter prompt).1).runIn)
      (Session.within _ (next (Prompter.ask second.prompter prompt).1).runIn)
    rw [← hagree.prompter]
    exact ih _ (hstays.2 _) ⟨hagree.stores, rfl, hagree.threshold, hagree.log⟩
  | note event next ih => exact ih hstays.2 (hagree.reporting [event])

theorem history_endsSame (hstores : Interchangeable allowed alike) {operations : List Operation}
    (hallowed : ∀ operation ∈ operations, ∀ path ∈ operation.path?, allowed path)
    (hagree : Agree alike first second) :
    List.Forall₂ (EndsSame alike) (first.history operations) (second.history operations) := by
  induction operations generalizing first second with
  | nil => exact .nil
  | cons operation rest ih =>
    obtain ⟨hoperation, hrest⟩ := List.forall_mem_cons.mp hallowed
    have hfirst := within_endsSame hstores (Operation.staysAt_perform hoperation) hagree
    rw [Operation.runIn_perform, Operation.runIn_perform] at hfirst
    exact .cons hfirst (ih hrest hfirst.agree)

end Sessions

end PlanScaffold
