/-
  PlanScaffold/Proofs/Concurrency/Ownership.lean
  ==============================================
  **Runs with one destination do not destroy each other's files.**

  The invariant (`Inv`) says who owns the destination.  Either nobody does, and then the disk is
  as it was at first and every run still waits for its chance; or one run holds it, and then the
  disk has exactly one file more, with the part of its text that this run has written, and all
  others wait.  The destination changes hands only when a run creates the file, and when the same
  run removes it again.

  What a waiting run may do is a property of its program (`Program.Intends`): it creates at most
  one file, at the destination and with the text of its own answers, it does not end well before, and
  nothing but a report follows after.  The generator's program has this property
  (`intends_generate`), and of the generator nothing else is used here.
-/
import PlanScaffold.Proofs.Concurrency.Machine
import PlanScaffold.Proofs.Disk.Creation
import PlanScaffold.Proofs.Requests

namespace PlanScaffold

namespace Program

/-! ### What the generator's program intends -/

/-- The program only reports, and then ends with this outcome. -/
def EndsWell (outcome : Outcome) : Program Outcome → Prop
  | .note _ next => next.EndsWell outcome
  | .done (.ok reached) => reached = outcome
  | _ => False

/-- What follows a creation ends well if it succeeds, and has failed if it fails. -/
def Continues (outcome : Outcome) (next : Except Fault Unit → Program Outcome) : Prop :=
  (next (.ok ())).EndsWell outcome ∧ ∀ fault, ∃ reason, next (.error fault) = .done (.error reason)

/-- The program, with this prompter, creates no file but one at the destination with this text, and
    ends well only behind it. -/
def Intends {π : Type} [Prompter π] (destination : Path) (text? : Option String) :
    Program Outcome → π → Prop
  | .done (.ok _), _ => False
  | .done (.error _), _ => True
  | .taken _ next, prompter => ∀ reply, (next reply).Intends destination text? prompter
  | .create path content next, _ =>
    path = destination ∧ text? = some content ∧
      Continues ⟨destination, content.utf8ByteSize⟩ next
  | .ask prompt next, prompter =>
    (next (Prompter.ask prompter prompt).1).Intends destination text?
      (Prompter.ask prompter prompt).2
  | .note _ next, prompter => next.Intends destination text? prompter

variable {π : Type} [Prompter π] {α : Type}

theorem intends_bind {destination : Path} {text? : Option String} {first : Program α}
    {rest : α → Program Outcome} {prompter : π} (hspares : first.Makes Call.SparesStore)
    (hrest : ∀ value, (first.outcome prompter).1 = .ok value →
      (rest value).Intends destination text? (first.outcome prompter).2) :
    (first >>= rest).Intends destination text? prompter := by
  induction first generalizing prompter with
  | done result =>
    cases result with
    | ok value => exact hrest value rfl
    | error fault => exact trivial
  | taken path next ih => exact hspares.1.elim
  | create path content next ih => exact hspares.1.elim
  | ask prompt next ih => exact ih _ (hspares.2 _) hrest
  | note event next ih => exact ih hspares.2 hrest

theorem intends_generate (destination : Path) (job : Job π) :
    (generate destination job.policy : Program Outcome).Intends destination job.text?
      job.prompter := by
  have hdescribe : (collectAnswers job.policy >>= keep destination).Intends destination job.text?
      job.prompter := by
    apply intends_bind (sparesStore_collectAnswers job.policy)
    intro answers hanswers
    refine ⟨rfl, ?_, rfl, fun fault => ⟨fault, rfl⟩⟩
    rw [Job.text?, Job.answers, hanswers]
    rfl
  rw [generate_eq]
  intro reply
  cases reply with
  | true => exact trivial
  | false =>
    show Intends _ _ (if destination.isPythonModule then _ else _) _
    split <;> exact hdescribe

end Program

namespace Concurrency

open Program

variable {ι π : Type} {destination : Path} {initial : Disk} {place : Place}

/-! ### Waiting for the destination, and holding it -/

/-- The run has made no file that is still there. -/
def Waits [Prompter π] (destination : Path) (text? : Option String) : Activity π → Prop
  | .running program prompter => program.Intends destination text? prompter
  | _ => False

/-- The run has made the file at the destination, and this is the disk. -/
inductive Holds (destination : Path) (initial : Disk) (place : Place) (content : String) :
    Disk → Activity π → Prop where
  | writing (written rest next prompter) (hparts : written ++ rest = Utf8.encode content)
    (hnext : Continues ⟨destination, content.utf8ByteSize⟩ next) :
    Holds destination initial place content (initial.holding place written)
      (.writing destination place rest next prompter)
  | discarding (written cause next prompter)
    (hnext : Continues ⟨destination, content.utf8ByteSize⟩ next) :
    Holds destination initial place content (initial.holding place written)
      (.discarding destination cause next prompter)
  | written (program prompter)
    (hends : program.EndsWell ⟨destination, content.utf8ByteSize⟩) :
    Holds destination initial place content (initial.holding place (Utf8.encode content))
      (.running program prompter)

theorem Holds.disk_eq {content : String} {disk : Disk} {activity : Activity π}
    (hholds : Holds destination initial place content disk activity) :
    ∃ bytes, disk = initial.holding place bytes := by
  cases hholds with
  | writing written rest next prompter hparts hnext => exact ⟨written, rfl⟩
  | discarding written cause next prompter hnext => exact ⟨written, rfl⟩
  | written program prompter hends => exact ⟨Utf8.encode content, rfl⟩

theorem openNew_holding (hfree : initial.tree.freePlace destination = .ok place) (bytes : Bytes) :
    ∃ cause, (initial.holding place bytes).openNew destination = .error cause := by
  have hnothing := (FileTree.freePlace_eq_ok.mp hfree).2
  refine ⟨.system .alreadyThere, Disk.openNew_of_error ?_⟩
  have hplace : (initial.holding place bytes).tree.placeOf destination = .ok place :=
    FileTree.placeOf_put hfree _
  have hthere : (initial.holding place bytes).tree.lookup? place = some (.file bytes) :=
    FileTree.lookup?_put_same _ (FileTree.ne_root_of_lookup?_eq_none hnothing) _
  rw [FileTree.freePlace, hplace]
  simp only [bind, Except.bind, hthere]

theorem remove_shared_holding {owner : Place → Option ι}
    (hfree : initial.tree.freePlace destination = .ok place) (bytes : Bytes) :
    (⟨initial.holding place bytes, owner⟩ : Shared ι).remove destination =
      ⟨initial, Function.update owner place none⟩ := by
  have hplace : (initial.holding place bytes).tree.placeOf destination = .ok place :=
    FileTree.placeOf_put hfree _
  unfold Shared.remove
  rw [Disk.remove_holding hfree, hplace]

/-- Nobody holds the destination and the disk is as it was at first, or one run holds it; all
    others wait. -/
inductive Inv [Prompter π] (destination : Path) (initial : Disk) (jobs : ι → Job π)
    (system : System ι π) : Prop where
  | free (hshared : system.shared = ⟨initial, fun _ => none⟩)
    (hwaits : ∀ me, Waits destination (jobs me).text? (system.activity me))
  | held (me : ι) (place : Place) (content : String)
    (hfree : initial.tree.freePlace destination = .ok place)
    (htext : (jobs me).text? = some content)
    (howner : system.shared.owner = Function.update (fun _ => none) place (some me))
    (hholds : Holds destination initial place content system.shared.disk (system.activity me))
    (hwaits : ∀ other, other ≠ me → Waits destination (jobs other).text? (system.activity other))

theorem inv_start [Prompter π] (destination : Path) (initial : Disk) (jobs : ι → Job π) :
    Inv destination initial jobs (start destination initial jobs) :=
  .free rfl fun me => intends_generate destination (jobs me)

/-! ### What one run can do -/

variable [DecidableEq ι] [Prompter π]

/-- A waiting run leaves the disk as it is, unless it opens the destination. -/
theorem waits_move {me : ι} {text? : Option String} {shared sharedAfter : Shared ι}
    {activity after : Activity π} (hwaits : Waits destination text? activity)
    (hmove : Move me (shared, activity) (sharedAfter, after)) :
    (sharedAfter = shared ∧ Waits destination text? after) ∨
    ∃ content place disk next prompter, text? = some content ∧
      shared.disk.openNew destination = .ok (place, disk) ∧
      sharedAfter = shared.opened me place disk ∧
      after = .writing destination place (Utf8.encode content) next prompter ∧
      Continues ⟨destination, content.utf8ByteSize⟩ next := by
  cases hmove with
  | look => exact .inl ⟨rfl, hwaits _⟩
  | ask => exact .inl ⟨rfl, hwaits⟩
  | note => exact .inl ⟨rfl, hwaits⟩
  | openFails _ path content next prompter cause hopen =>
    obtain ⟨reason, hreason⟩ := hwaits.2.2.2 (Disk.openFault path cause)
    refine .inl ⟨rfl, ?_⟩
    rw [hreason]
    exact trivial
  | opens _ path content next prompter place disk hopen =>
    obtain ⟨rfl, htext, hnext⟩ := hwaits
    exact .inr ⟨content, place, disk, next, prompter, htext, hopen, rfl, rfl, hnext⟩
  | writes => exact hwaits.elim
  | writeIsCut => exact hwaits.elim
  | writeFails => exact hwaits.elim
  | closes => exact hwaits.elim
  | removes => exact hwaits.elim

theorem write_holding {me : ι} {owner : Place → Option ι} (howner : owner place = some me)
    (hfree : initial.tree.lookup? place = none) (written part : Bytes) :
    (⟨initial.holding place written, owner⟩ : Shared ι).write me place part =
      if initial.fits (written ++ part).length then
        (.ok (), ⟨initial.holding place (written ++ part), owner⟩)
      else (.error (.system .fileTooLarge),
        ⟨initial.holding place ((written ++ part).take (initial.room (written ++ part).length)),
          owner⟩) := by
  unfold Shared.write
  rw [if_pos howner]
  simp only [Disk.append_holding hfree]
  split <;> rfl

/-- The run that holds the destination goes on holding it, or gives it back as it was. -/
theorem holds_move {me : ι} {text? : Option String} {content : String} {disk : Disk}
    {owner : Place → Option ι} {sharedAfter : Shared ι} {activity after : Activity π}
    (hfree : initial.tree.freePlace destination = .ok place) (howner : owner place = some me)
    (hholds : Holds destination initial place content disk activity)
    (hmove : Move me (⟨disk, owner⟩, activity) (sharedAfter, after)) :
    (sharedAfter.owner = owner ∧
      Holds destination initial place content sharedAfter.disk after) ∨
    (sharedAfter = ⟨initial, Function.update owner place none⟩ ∧
      Waits destination text? after) := by
  have hnothing := (FileTree.freePlace_eq_ok.mp hfree).2
  cases hholds with
  | writing written rest next prompter hparts hnext =>
    cases hmove with
    | writes _ _ _ part rest _ _ hwrite =>
      rw [write_holding howner hnothing] at hwrite ⊢
      by_cases hfits : initial.fits (written ++ part).length
      · rw [if_pos hfits]
        refine .inl ⟨rfl, .writing _ _ _ _ ?_ hnext⟩
        rw [List.append_assoc, hparts]
      · rw [if_neg hfits] at hwrite
        cases hwrite
    | writeIsCut _ _ _ part rest _ _ cause hwrite =>
      rw [write_holding howner hnothing] at hwrite ⊢
      by_cases hfits : initial.fits (written ++ part).length
      · rw [if_pos hfits] at hwrite
        cases hwrite
      · rw [if_neg hfits]
        exact .inl ⟨rfl, .discarding _ _ _ _ hnext⟩
    | writeFails =>
      exact .inl ⟨rfl, .discarding _ _ _ _ hnext⟩
    | closes =>
      rw [List.append_nil] at hparts
      subst hparts
      exact .inl ⟨rfl, .written _ _ hnext.1⟩
  | discarding written cause next prompter hnext =>
    cases hmove with
    | removes =>
      obtain ⟨reason, hreason⟩ := hnext.2 (.io cause)
      refine .inr ⟨remove_shared_holding hfree written, ?_⟩
      rw [hreason]
      exact trivial
  | written program prompter hends =>
    cases hmove with
    | note => exact .inl ⟨rfl, .written _ _ hends⟩
    | look => exact hends.elim
    | ask => exact hends.elim
    | openFails => exact hends.elim
    | opens => exact hends.elim

/-! ### The invariant -/

variable {jobs : ι → Job π} {system later : System ι π}

theorem inv_opened {me : ι} {content : String} {disk : Disk} {shared : Shared ι}
    {next : Except Fault Unit → Program Outcome} {prompter : π}
    (hwaits : ∀ other, Waits destination (jobs other).text? (system.activity other))
    (htext : (jobs me).text? = some content)
    (hopen : initial.openNew destination = .ok (place, disk))
    (hshared : shared = (⟨initial, fun _ => none⟩ : Shared ι).opened me place disk)
    (hnext : Continues ⟨destination, content.utf8ByteSize⟩ next) :
    Inv destination initial jobs (system.moved me shared
      (.writing destination place (Utf8.encode content) next prompter)) := by
  cases hfree : initial.tree.freePlace destination with
  | error cause =>
    rw [Disk.openNew_of_error hfree] at hopen
    cases hopen
  | ok free =>
    rw [Disk.openNew_of_free hfree] at hopen
    cases hopen
    subst hshared
    refine .held me place content hfree htext rfl ?_ fun other hother => ?_
    · rw [system.moved_self]
      exact .writing [] _ _ _ rfl hnext
    · rw [system.moved_other hother]
      exact hwaits other

theorem inv_step {me : ι} (hinv : Inv destination initial jobs system)
    (hstep : Step me system later) : Inv destination initial jobs later := by
  obtain ⟨shared, after, hmove, rfl⟩ := hstep
  cases hinv with
  | free hshared hwaits =>
    rw [hshared] at hmove
    rcases waits_move (hwaits me) hmove with ⟨hsame, hafter⟩ |
      ⟨content, place, disk, next, prompter, htext, hopen, hopened, rfl, hnext⟩
    · exact .free hsame ((Function.forall_update_iff _ _).mpr ⟨hafter, fun other _ => hwaits other⟩)
    · exact inv_opened hwaits htext hopen hopened hnext
  | held holder place content hfree htext howner hholds hwaits =>
    have hsystem : system.shared = ⟨system.shared.disk, system.shared.owner⟩ := rfl
    by_cases hme : me = holder
    · subst hme
      rw [hsystem, howner] at hmove
      rcases holds_move hfree (Function.update_self ..) hholds hmove with
        ⟨howned, hafter⟩ | ⟨hgiven, hafter⟩
      · refine .held me place content hfree htext howned ?_ fun other hother => ?_
        · rw [system.moved_self]
          exact hafter
        · rw [system.moved_other hother]
          exact hwaits other hother
      · refine .free ?_ ((Function.forall_update_iff _ _).mpr ⟨hafter, hwaits⟩)
        rw [hgiven, Function.update_idem, Function.update_eq_self place fun _ => none]
        rfl
    · rcases waits_move (hwaits me hme) hmove with ⟨hsame, hafter⟩ |
        ⟨_, _, disk, _, _, _, hopen, _⟩
      · subst hsame
        refine .held holder place content hfree htext howner ?_ fun other hother => ?_
        · rw [system.moved_other (Ne.symm hme)]
          exact hholds
        · by_cases hsame : other = me
          · subst hsame
            rw [system.moved_self]
            exact hafter
          · rw [system.moved_other hsame]
            exact hwaits other hother
      · obtain ⟨bytes, hdisk⟩ := hholds.disk_eq
        obtain ⟨cause, hcause⟩ := openNew_holding hfree bytes
        rw [hdisk, hcause] at hopen
        cases hopen

theorem inv_reaches (hreach : Reaches (start destination initial jobs) system) :
    Inv destination initial jobs system := by
  induction hreach with
  | refl => exact inv_start destination initial jobs
  | tail _ hstep ih =>
    obtain ⟨me, hstep⟩ := hstep
    exact inv_step ih hstep

end Concurrency

end PlanScaffold
