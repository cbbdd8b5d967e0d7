/-
  PlanScaffold/Proofs/Concurrency/Machine.lean
  ============================================
  **Several runs on one disk.**

  Each run has a program of its own, which is the generator's, and a prompter of its own; they
  share a disk.  In one step, one run carries out one call to the system or one request to its
  prompter.  Creating a file takes several calls: it is opened exclusively, bytes are written in
  parts of any size, each of which may fail, and after a failure the file is removed by its
  path.  The steps of different runs follow each other in any order.

  An open file is not its name.  `Shared.owner` tells which run has made the file that is at a
  place now, and a run whose file is no longer there writes to no place at all.

  A run that is alone ends as the generator does in a session (`moves_generate`).
-/
import Mathlib.Logic.Function.Basic
import Mathlib.Logic.Relation
import PlanScaffold.Proofs.Program

namespace PlanScaffold

/-- What a run has of its own: its prompter, and its policy for empty tokens. -/
structure Job (π : Type) where
  prompter : π
  policy : EmptyTokens

/-- The answers that are given in a job, or why they are not. -/
def Job.answers {π : Type} [Prompter π] (job : Job π) : Except Fault Answers :=
  ((collectAnswers job.policy : Program Answers).outcome job.prompter).1

/-- The text that is to be written in a job, if its answers are given. -/
def Job.text? {π : Type} [Prompter π] (job : Job π) : Option String :=
  job.answers.toOption.map Skeleton.render

namespace Concurrency

/-! ### The state -/

/-- Where a run stands: before the next request of its program, or within the creation of a
    file, which either goes on or has failed. -/
inductive Activity (π : Type) where
  | running (program : Program Outcome) (prompter : π)
  | writing (path : Path) (place : Place) (rest : Bytes)
      (next : Except Fault Unit → Program Outcome) (prompter : π)
  | discarding (path : Path) (cause : IoFault) (next : Except Fault Unit → Program Outcome)
      (prompter : π)

/-- What the runs share: a disk, and which of them has made the file at a place. -/
structure Shared (ι : Type) where
  disk : Disk
  owner : Place → Option ι

structure System (ι π : Type) where
  shared : Shared ι
  activity : ι → Activity π

variable {ι π : Type} [DecidableEq ι]

namespace Shared

/-- After a run has opened a new file at a place. -/
def opened (shared : Shared ι) (me : ι) (place : Place) (disk : Disk) : Shared ι :=
  ⟨disk, Function.update shared.owner place (some me)⟩

/-- After a run has written some bytes to the file that it opened at a place. -/
def write (shared : Shared ι) (me : ι) (place : Place) (part : Bytes) :
    Except IoFault Unit × Shared ι :=
  if shared.owner place = some me then
    ((shared.disk.append place part).1, { shared with disk := (shared.disk.append place part).2 })
  else (.ok (), shared)

/-- After the file that a path names has been removed. -/
def remove (shared : Shared ι) (path : Path) : Shared ι :=
  ⟨shared.disk.remove path,
    match shared.disk.tree.placeOf path with
    | .ok place => Function.update shared.owner place none
    | .error _ => shared.owner⟩

end Shared

/-! ### Steps -/

/-- The system after one run has moved; all others stay where they are. -/
def System.moved (system : System ι π) (me : ι) (shared : Shared ι) (activity : Activity π) :
    System ι π :=
  ⟨shared, Function.update system.activity me activity⟩

@[simp] theorem System.moved_self (system : System ι π) (me : ι) (shared : Shared ι)
    (activity : Activity π) : (system.moved me shared activity).activity me = activity :=
  Function.update_self ..

theorem System.moved_other (system : System ι π) {me other : ι} (hother : other ≠ me)
    (shared : Shared ι) (activity : Activity π) :
    (system.moved me shared activity).activity other = system.activity other :=
  Function.update_of_ne hother ..

variable [Prompter π]

/-- What one run can do next. -/
inductive Move (me : ι) : Shared ι × Activity π → Shared ι × Activity π → Prop where
  | look (shared path next prompter) :
    Move me (shared, .running (.taken path next) prompter)
      (shared, .running (next (shared.disk.tree.names path)) prompter)
  | ask (shared prompt next prompter) :
    Move me (shared, .running (.ask prompt next) prompter)
      (shared, .running (next (Prompter.ask prompter prompt).1) (Prompter.ask prompter prompt).2)
  | note (shared event next prompter) :
    Move me (shared, .running (.note event next) prompter) (shared, .running next prompter)
  | openFails (shared path content next prompter cause)
    (hopen : shared.disk.openNew path = .error cause) :
    Move me (shared, .running (.create path content next) prompter)
      (shared, .running (next (.error (Disk.openFault path cause))) prompter)
  | opens (shared path content next prompter place disk)
    (hopen : shared.disk.openNew path = .ok (place, disk)) :
    Move me (shared, .running (.create path content next) prompter)
      (shared.opened me place disk, .writing path place (Utf8.encode content) next prompter)
  | writes (shared path place part rest next prompter)
    (hwrite : (shared.write me place part).1 = .ok ()) :
    Move me (shared, .writing path place (part ++ rest) next prompter)
      ((shared.write me place part).2, .writing path place rest next prompter)
  | writeIsCut (shared path place part rest next prompter cause)
    (hwrite : (shared.write me place part).1 = .error cause) :
    Move me (shared, .writing path place (part ++ rest) next prompter)
      ((shared.write me place part).2, .discarding path cause next prompter)
  | writeFails (shared path place rest next prompter cause) :
    Move me (shared, .writing path place rest next prompter)
      (shared, .discarding path cause next prompter)
  | closes (shared path place next prompter) :
    Move me (shared, .writing path place [] next prompter)
      (shared, .running (next (.ok ())) prompter)
  | removes (shared path cause next prompter) :
    Move me (shared, .discarding path cause next prompter)
      (shared.remove path, .running (next (.error (.io cause))) prompter)

def Step (me : ι) (system later : System ι π) : Prop :=
  ∃ shared activity, Move me (system.shared, system.activity me) (shared, activity) ∧
    later = system.moved me shared activity

def Reaches : System ι π → System ι π → Prop :=
  Relation.ReflTransGen fun system later => ∃ me, Step me system later

/-- All runs before their first step. -/
def start (destination : Path) (disk : Disk) (jobs : ι → Job π) : System ι π where
  shared := ⟨disk, fun _ => none⟩
  activity me := .running (generate destination (jobs me).policy) (jobs me).prompter

def System.EndsWith (system : System ι π) (me : ι) (result : Except Fault Outcome) : Prop :=
  ∃ prompter, system.activity me = .running (.done result) prompter

def System.Succeeded (system : System ι π) (me : ι) : Prop :=
  ∃ outcome, system.EndsWith me (.ok outcome)

/-! ### A run that is alone -/

theorem write_opened (shared : Shared ι) (me : ι) (place : Place) (disk : Disk) (part : Bytes) :
    (shared.opened me place disk).write me place part =
      ((disk.append place part).1,
        ⟨(disk.append place part).2, (shared.opened me place disk).owner⟩) := by
  have howner : (shared.opened me place disk).owner place = some me := Function.update_self ..
  rw [Shared.write, if_pos howner]
  rfl

theorem moves_create (me : ι) (shared : Shared ι) (path : Path) (content : String)
    (next : Except Fault Unit → Program Outcome) (prompter : π) :
    ∃ owner, Relation.ReflTransGen (Move me)
      (shared, .running (.create path content next) prompter)
      (⟨(shared.disk.create path content).2, owner⟩,
        .running (next (shared.disk.create path content).1) prompter) := by
  cases hopen : shared.disk.openNew path with
  | error cause =>
    have hcreate : shared.disk.create path content =
        (.error (Disk.openFault path cause), shared.disk) := by rw [Disk.create, hopen]
    rw [hcreate]
    exact ⟨shared.owner, .single (.openFails shared path content next prompter cause hopen)⟩
  | ok opening =>
    obtain ⟨place, disk⟩ := opening
    have hopens : Move me (shared, .running (.create path content next) prompter) _ :=
      .opens shared path content next prompter place disk hopen
    have hwrite := write_opened shared me place disk (Utf8.encode content)
    cases happend : disk.append place (Utf8.encode content) with
    | mk outcome written =>
      rw [happend] at hwrite
      cases outcome with
      | ok written' =>
        have hcreate : shared.disk.create path content = (.ok (), written) := by
          simp only [Disk.create, hopen, happend]
        have hwrites := Move.writes (shared.opened me place disk) path place (Utf8.encode content)
          [] next prompter (by rw [hwrite])
        rw [hwrite, List.append_nil] at hwrites
        rw [hcreate]
        exact ⟨_, ((Relation.ReflTransGen.single hopens).tail hwrites).tail
          (.closes _ path place next prompter)⟩
      | error cause =>
        have hcreate : shared.disk.create path content =
            (.error (.io cause), written.remove path) := by
          simp only [Disk.create, hopen, happend]
        have hcut := Move.writeIsCut (shared.opened me place disk) path place (Utf8.encode content)
          [] next prompter cause (by rw [hwrite])
        rw [hwrite, List.append_nil] at hcut
        rw [hcreate]
        exact ⟨_, ((Relation.ReflTransGen.single hopens).tail hcut).tail
          (.removes _ path cause next prompter)⟩

/-- A run that is alone can carry its program out. -/
theorem moves_effect (me : ι) (program : Program Outcome) (shared : Shared ι) (prompter : π) :
    ∃ owner, Relation.ReflTransGen (Move me) (shared, .running program prompter)
      (⟨(program.effect shared.disk prompter).2.1, owner⟩,
        .running (.done (program.effect shared.disk prompter).1)
          (program.effect shared.disk prompter).2.2) := by
  induction program generalizing shared prompter with
  | done result => exact ⟨shared.owner, .refl⟩
  | taken path next ih =>
    obtain ⟨owner, hmoves⟩ := ih _ shared prompter
    exact ⟨owner, hmoves.head (.look shared path next prompter)⟩
  | create path content next ih =>
    obtain ⟨created, hcreate⟩ := moves_create me shared path content next prompter
    obtain ⟨owner, hmoves⟩ := ih _ ⟨(shared.disk.create path content).2, created⟩ prompter
    exact ⟨owner, hcreate.trans hmoves⟩
  | ask prompt next ih =>
    obtain ⟨owner, hmoves⟩ := ih _ shared (Prompter.ask prompter prompt).2
    exact ⟨owner, hmoves.head (.ask shared prompt next prompter)⟩
  | note event next ih =>
    obtain ⟨owner, hmoves⟩ := ih shared prompter
    exact ⟨owner, hmoves.head (.note shared event next prompter)⟩

/-- A run that is alone can end as the generator does in a session, with the same disk and the
    same prompter. -/
theorem moves_generate (me : ι) (destination : Path) (policy : EmptyTokens)
    (session : Session Disk π) :
    ∃ result final owner,
      (generate destination policy : SessionM Disk π Outcome) session =
        Session.settle final result ∧
      Relation.ReflTransGen (Move me)
        (⟨session.store, fun _ => none⟩,
          .running (generate destination policy) session.prompter)
        (⟨final.store, owner⟩, .running (.done result) final.prompter) := by
  obtain ⟨log, hrun⟩ :=
    Program.runIn_eq_settle (generate destination policy : Program Outcome) session
  obtain ⟨owner, hmoves⟩ := moves_effect me (generate destination policy)
    ⟨session.store, fun _ => none⟩ session.prompter
  rw [Program.runIn_generate] at hrun
  exact ⟨_, _, owner, hrun, hmoves⟩

/-- What one run can do alone, it can do while all others stand still. -/
theorem reaches_of_moves {system : System ι π} {me : ι} {state : Shared ι × Activity π}
    (hmoves : Relation.ReflTransGen (Move me) (system.shared, system.activity me) state) :
    Reaches system (system.moved me state.1 state.2) := by
  induction hmoves with
  | refl =>
    have hsame : system.moved me system.shared (system.activity me) = system := by
      rw [System.moved, Function.update_eq_self]
    rw [hsame]
    exact .refl
  | @tail state after _ hmove ih =>
    have hstep : Step me (system.moved me state.1 state.2) (system.moved me after.1 after.2) := by
      refine ⟨after.1, after.2, ?_, ?_⟩
      · rw [system.moved_self]
        exact hmove
      · simp only [System.moved, Function.update_idem]
    exact ih.tail ⟨me, hstep⟩

end Concurrency

end PlanScaffold
