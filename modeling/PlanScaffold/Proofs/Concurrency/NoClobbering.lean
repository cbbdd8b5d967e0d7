/-
  PlanScaffold/Proofs/Concurrency/NoClobbering.lean
  =================================================
  **What is at the destination, whatever order the runs move in.**

  All of it follows from the ownership of the destination: at most one run ends well, and then the
  file has all of its text; what was there at first stays; no run removes a file that another
  one has made; and when all have failed, nothing is left behind.
-/
import Mathlib
import PlanScaffold.Proofs.Concurrency.Ownership
import PlanScaffold.Proofs.Generate

namespace PlanScaffold

/-- There is something at a path, and be it a link that leads nowhere. -/
def FileTree.Occupied (tree : FileTree) (path : Path) : Prop :=
  tree.names path = true ∨ ∃ place, tree.placeOf path = .ok place ∧ tree.lookup? place ≠ none

theorem FileTree.freePlace_of_occupied {tree : FileTree} {path : Path}
    (hoccupied : tree.Occupied path) : ∃ cause, tree.freePlace path = .error cause := by
  cases hfree : tree.freePlace path with
  | error cause => exact ⟨cause, rfl⟩
  | ok place =>
    obtain ⟨hplace, hnothing⟩ := freePlace_eq_ok.mp hfree
    rcases hoccupied with hnames | ⟨other, hother, hthere⟩
    · rw [not_names_of_freePlace hfree] at hnames
      cases hnames
    · rw [hplace] at hother
      cases hother
      exact (hthere hnothing).elim

namespace Concurrency

open Program

variable {ι π : Type} [Prompter π] {destination : Path} {initial : Disk} {jobs : ι → Job π}
  {system later : System ι π}

/-! ### The disk -/

theorem shared_eq_of_taken {cause : IoFault} (hinv : Inv destination initial jobs system)
    (htaken : initial.tree.freePlace destination = .error cause) :
    system.shared = ⟨initial, fun _ => none⟩ := by
  cases hinv with
  | free hshared hwaits => exact hshared
  | held holder place content hfree htext howner hholds hwaits =>
    rw [htaken] at hfree
    cases hfree

theorem disk_eq_of_all_failed (hinv : Inv destination initial jobs system)
    (hended : ∀ me, ∃ result, system.EndsWith me result)
    (hfailed : ∀ me, ¬system.Succeeded me) : system.shared.disk = initial := by
  cases hinv with
  | free hshared hwaits => rw [hshared]
  | held holder place content hfree htext howner hholds hwaits =>
    obtain ⟨result, prompter, hactivity⟩ := hended holder
    rw [hactivity] at hholds
    generalize hdisk : system.shared.disk = disk at hholds
    cases hholds with
    | written _ _ hends =>
      cases result with
      | ok outcome => exact (hfailed holder ⟨outcome, prompter, hactivity⟩).elim
      | error fault => exact hends.elim

theorem owner_of_changed {place : Place} (hinv : Inv destination initial jobs system)
    (hchanged : system.shared.disk.tree.lookup? place ≠ initial.tree.lookup? place) :
    ∃ owner, system.shared.owner place = some owner := by
  cases hinv with
  | free hshared hwaits =>
    rw [hshared] at hchanged
    exact (hchanged rfl).elim
  | held holder held content hfree htext howner hholds hwaits =>
    obtain ⟨bytes, hdisk⟩ := hholds.disk_eq
    have hplace : place = held := by
      by_contra hother
      rw [hdisk] at hchanged
      exact hchanged (FileTree.lookup?_put_other _ hother _)
    subst hplace
    refine ⟨holder, ?_⟩
    rw [howner]
    exact Function.update_self ..

/-! ### Runs that have ended -/

variable [DecidableEq ι]

theorem endsWith_step {me other : ι} {result : Except Fault Outcome}
    (hends : system.EndsWith other result) (hstep : Step me system later) :
    later.EndsWith other result := by
  obtain ⟨prompter, hactivity⟩ := hends
  obtain ⟨shared, after, hmove, rfl⟩ := hstep
  by_cases hother : other = me
  · subst hother
    rw [hactivity] at hmove
    cases hmove
  · exact ⟨prompter, by rw [system.moved_other hother, hactivity]⟩

theorem endsWith_reaches {me : ι} {result : Except Fault Outcome}
    (hends : system.EndsWith me result) (hreach : Reaches system later) :
    later.EndsWith me result := by
  induction hreach with
  | refl => exact hends
  | tail _ hstep ih =>
    obtain ⟨other, hstep⟩ := hstep
    exact endsWith_step ih hstep

/-- A run that has ended well holds the destination, with all of its text. -/
theorem holds_of_endsWith {me : ι} {outcome : Outcome}
    (hinv : Inv destination initial jobs system) (hends : system.EndsWith me (.ok outcome)) :
    ∃ place content, initial.tree.freePlace destination = .ok place ∧
      (jobs me).text? = some content ∧ outcome = ⟨destination, content.utf8ByteSize⟩ ∧
      system.shared.owner place = some me ∧
      system.shared.disk = initial.holding place (Utf8.encode content) := by
  obtain ⟨prompter, hactivity⟩ := hends
  cases hinv with
  | free hshared hwaits =>
    have hwaits := hwaits me
    rw [hactivity] at hwaits
    exact hwaits.elim
  | held holder place content hfree htext howner hholds hwaits =>
    by_cases hme : me = holder
    · subst hme
      rw [hactivity] at hholds
      generalize hdisk : system.shared.disk = disk at hholds
      cases hholds with
      | written _ _ hends =>
        refine ⟨place, content, hfree, htext, hends, ?_, rfl⟩
        rw [howner]
        exact Function.update_self ..
    · have hwaits := hwaits me hme
      rw [hactivity] at hwaits
      exact hwaits.elim

theorem eq_of_succeeded {me other : ι} (hinv : Inv destination initial jobs system)
    (hme : system.Succeeded me) (hother : system.Succeeded other) : me = other := by
  obtain ⟨_, hme⟩ := hme
  obtain ⟨_, hother⟩ := hother
  obtain ⟨place, _, hplace, _, _, howner, _⟩ := holds_of_endsWith hinv hme
  obtain ⟨place', _, hplace', _, _, howner', _⟩ := holds_of_endsWith hinv hother
  rw [hplace] at hplace'
  cases hplace'
  rw [howner] at howner'
  exact Option.some.inj howner'

/-! ### Files that runs have made -/

/-- While a run owns the file at some place, no step of another run changes anything. -/
theorem shared_eq_of_owner {me owner : ι} {place : Place}
    (hinv : Inv destination initial jobs system) (hstep : Step me system later)
    (howner : system.shared.owner place = some owner) (hme : me ≠ owner) :
    later.shared = system.shared := by
  obtain ⟨shared, after, hmove, rfl⟩ := hstep
  cases hinv with
  | free hshared hwaits =>
    rw [hshared] at howner
    cases howner
  | held holder held content hfree htext howned hholds hwaits =>
    have hholder : holder = owner := by
      rw [howned] at howner
      by_cases hplace : place = held
      · subst hplace
        simpa using howner
      · simp [Function.update_of_ne hplace] at howner
    subst hholder
    rcases waits_move (hwaits me hme) hmove with ⟨hsame, _⟩ | ⟨_, _, disk, _, _, _, hopen, _⟩
    · exact hsame
    · obtain ⟨bytes, hdisk⟩ := hholds.disk_eq
      obtain ⟨cause, hcause⟩ := openNew_holding hfree bytes
      rw [hdisk, hcause] at hopen
      cases hopen

/-! ### No clobbering -/

/-- What runs with one destination owe each other, and to what was there before them. -/
structure NoClobbering (destination : Path) (initial : Disk) (jobs : ι → Job π)
    (system : System ι π) : Prop where
  /-- At most one run has ended well or will do so. -/
  once : ∀ later, Reaches system later → ∀ first second,
    system.Succeeded first ∨ later.Succeeded first →
    system.Succeeded second ∨ later.Succeeded second → first = second
  /-- What was at the destination stays there, and no run ends well. -/
  kept : initial.tree.Occupied destination →
    system.shared.disk = initial ∧ ∀ me, ¬system.Succeeded me
  /-- Whatever else there is now is the file of some run. -/
  owned : ∀ place, system.shared.disk.tree.lookup? place ≠ initial.tree.lookup? place →
    ∃ owner, system.shared.owner place = some owner
  /-- A run neither removes nor changes the file of another run. -/
  spared : ∀ me later, Step me system later → ∀ place owner,
    system.shared.owner place = some owner → me ≠ owner → later.shared = system.shared
  /-- When a run has ended well, the tree has one more file, with all bytes of its skeleton. -/
  written : ∀ me outcome, system.EndsWith me (.ok outcome) → ∃ answers place,
    (jobs me).answers = .ok answers ∧
    outcome = ⟨destination, (Skeleton.render answers).utf8ByteSize⟩ ∧
    system.shared.owner place = some me ∧
    system.shared.disk.sizeLimit = initial.sizeLimit ∧
    initial.tree.Gains destination place (Utf8.encode (Skeleton.render answers))
      system.shared.disk.tree
  /-- When all runs have ended and none of them well, nothing is left behind. -/
  nothing : (∀ me, ∃ result, system.EndsWith me result) → (∀ me, ¬system.Succeeded me) →
    system.shared.disk = initial

theorem noClobbering_written {me : ι} {outcome : Outcome}
    (hinv : Inv destination initial jobs system) (hends : system.EndsWith me (.ok outcome)) :
    ∃ answers place, (jobs me).answers = .ok answers ∧
      outcome = ⟨destination, (Skeleton.render answers).utf8ByteSize⟩ ∧
      system.shared.owner place = some me ∧
      system.shared.disk.sizeLimit = initial.sizeLimit ∧
      initial.tree.Gains destination place (Utf8.encode (Skeleton.render answers))
        system.shared.disk.tree := by
  obtain ⟨place, content, hfree, htext, houtcome, howner, hdisk⟩ := holds_of_endsWith hinv hends
  cases hanswers : (jobs me).answers with
  | error fault =>
    rw [Job.text?, hanswers] at htext
    cases htext
  | ok answers =>
    rw [Job.text?, hanswers] at htext
    cases htext
    rw [hdisk]
    exact ⟨answers, place, rfl, houtcome, howner, rfl, FileTree.gains_put hfree _⟩

/-- **No clobbering.**  Any number of runs with one destination, whose calls to the system follow
    each other in any order, never destroy each other's files nor what was there before. -/
theorem runs_never_clobber (hreach : Reaches (start destination initial jobs) system) :
    NoClobbering destination initial jobs system := by
  have hinv := inv_reaches hreach
  constructor
  · intro later hlater first second hfirst hsecond
    have hpersists : ∀ me, system.Succeeded me ∨ later.Succeeded me → later.Succeeded me := by
      rintro me (⟨outcome, hends⟩ | hsucceeded)
      · exact ⟨outcome, endsWith_reaches hends hlater⟩
      · exact hsucceeded
    exact eq_of_succeeded (inv_reaches (hreach.trans hlater)) (hpersists first hfirst)
      (hpersists second hsecond)
  · intro hoccupied
    obtain ⟨cause, htaken⟩ := FileTree.freePlace_of_occupied hoccupied
    refine ⟨by rw [shared_eq_of_taken hinv htaken], ?_⟩
    rintro me ⟨outcome, hends⟩
    obtain ⟨place, _, hfree, _⟩ := holds_of_endsWith hinv hends
    rw [htaken] at hfree
    cases hfree
  · exact fun place hchanged => owner_of_changed hinv hchanged
  · exact fun me later hstep place owner howner hme => shared_eq_of_owner hinv hstep howner hme
  · exact fun me outcome hends => noClobbering_written hinv hends
  · exact fun hended hfailed => disk_eq_of_all_failed hinv hended hfailed

def rivals : Bool → Job Script :=
  fun _ => ⟨{ answers := ["rocket", "stage", "at", "fly"] }, .preserve⟩

/-- Both runs find the destination free, and then one of them carries on to its end. -/
theorem runs_never_clobber_rivals : ∃ system : System Bool Script,
    Reaches (start ⟨"a.py"⟩ { tree := {} } rivals) system ∧ system.Succeeded true ∧
    NoClobbering ⟨"a.py"⟩ { tree := {} } rivals system := by
  have hfree : FileTree.freePlace {} ⟨"a.py"⟩ = .ok ["a.py"] := by cbv
  have hanswers : ∃ answers after,
      (collectAnswers (rivals true).policy : Program Answers).outcome (rivals true).prompter =
        (.ok answers, after) :=
    ⟨⟨⟨"Rocket", by decide⟩, ["Stage"], ["at"], ["fly"]⟩, ⟨[], prompts⟩, rfl⟩
  obtain ⟨answers, after, hanswers⟩ := hanswers
  have hlook : ∃ activity, Step false (start ⟨"a.py"⟩ { tree := {} } rivals)
      ((start ⟨"a.py"⟩ { tree := {} } rivals).moved false ⟨{ tree := {} }, fun _ => none⟩
        activity) :=
    ⟨_, _, _, .look .., rfl⟩
  obtain ⟨activity, hlook⟩ := hlook
  obtain ⟨owner, hmoves⟩ := moves_effect true
    (generate ⟨"a.py"⟩ (rivals true).policy : Program Outcome)
    ⟨{ tree := {} }, fun _ => none⟩ (rivals true).prompter
  rw [effect_generate_of_room hfree hanswers rfl] at hmoves
  have hreach := Relation.ReflTransGen.head ⟨false, hlook⟩ (reaches_of_moves hmoves)
  refine ⟨_, hreach, ⟨_, after, System.moved_self ..⟩, runs_never_clobber hreach⟩

end Concurrency

end PlanScaffold
