/-
  PlanScaffold/Proofs/Memory/Mirror.lean
  ======================================
  **A store in memory does what a directory does.**

  Tests of the generator use a store in memory where the program uses the disk.  Among paths that
  are just a file name, and as long as all files fit on the disk, nobody can tell the two apart: a
  store that has the texts of the files in the working directory goes on to have them
  (`Mirrors`), gives the same results and makes no difference to what is asked and reported.

  For one operation this is shown by comparing the two ways to tell whether a name is taken and the
  two ways to create a file, each in the case of a name that is free and of one that is taken.
-/
import PlanScaffold.Proofs.Disk.Creation
import PlanScaffold.Proofs.Simulation
import PlanScaffold.Proofs.Spellings

namespace PlanScaffold

/-! ### File names -/

/-- A name that a file may have in any directory. -/
structure PlainName (name : String) : Prop where
  nonempty : name ≠ ""
  noSeparator : '/' ∉ name.toList
  noNul : '\x00' ∉ name.toList
  notHere : name ≠ "."
  notUp : name ≠ ".."
  short : name.utf8ByteSize ≤ FileTree.nameLimit

namespace PlainName

variable {name : String} {tree : FileTree}

theorem steps (hname : PlainName name) : Path.steps ⟨name⟩ = [.name name] := by
  have hstep : Path.Step.ofPiece? name = some (.name name) := by
    rw [Path.Step.ofPiece?, if_neg (not_or.mpr ⟨hname.nonempty, hname.notHere⟩),
      if_neg hname.notUp]
  rw [Path.steps_eq, Path.opening, Path.innerSteps, Path.pieces_of_notMem hname.noSeparator,
    Path.isAbsolute_of_notMem hname.noSeparator]
  simp [hname.notHere, hstep]

theorem checkPath (hname : PlainName name) : FileTree.checkPath ⟨name⟩ = .ok () := by
  have hlength : ¬FileTree.pathLimit ≤ name.utf8ByteSize := by
    have hshort := hname.short
    unfold FileTree.nameLimit at hshort
    unfold FileTree.pathLimit
    omega
  have hnul : ¬name.toList.contains '\x00' = true := by simpa using hname.noNul
  rw [FileTree.checkPath, if_neg hnul, if_neg hname.nonempty, if_neg hlength]

theorem lastPiece? (hname : PlainName name) :
    FileTree.lastPiece? ⟨name⟩ = some ([], name, false) := by
  simp [FileTree.lastPiece?, Path.pieces_of_notMem hname.noSeparator, hname.nonempty]

/-- A plain name is that of an entry of the working directory. -/
theorem placeOf (hname : PlainName name) :
    tree.placeOf ⟨name⟩ = .ok (tree.workingDirectory ++ [name]) := by
  rw [FileTree.placeOf_eq_ok]
  refine ⟨hname.checkPath, [], name, tree.workingDirectory, hname.lastPiece?, ?_, ?_, ?_, rfl⟩
  · rw [FileTree.startOf, Path.isAbsolute_of_notMem hname.noSeparator, List.nil_append,
      FileTree.walk_skip (.inr rfl), FileTree.walk]
    rfl
  · exact not_or.mpr ⟨hname.notHere, hname.notUp⟩
  · exact Nat.not_lt.mpr hname.short

end PlainName

/-! ### A directory and its mirror -/

namespace MemoryStore

/-- The store has the texts of the files in the working directory, in which there is nothing but
    these files; and no file is too large for the disk. -/
structure Mirrors (store : MemoryStore) (disk : Disk) : Prop where
  unlimited : disk.sizeLimit = none
  /-- At a plain name there is a file with the text that is kept under this name, or nothing. -/
  same : ∀ name, PlainName name →
    disk.tree.lookup? (disk.tree.workingDirectory ++ [name]) =
      (store.read? ⟨name⟩).map fun text => .file (Utf8.encode text)
  /-- Below the working directory there is nothing that is not at a plain name. -/
  onDisk : ∀ place entry, place ≠ [] →
    disk.tree.lookup? (disk.tree.workingDirectory ++ place) = some entry →
    ∃ name, PlainName name ∧ place = [name]
  /-- Nothing is kept but under plain names. -/
  inMemory : ∀ key text, store.files.lookup key = some text →
    ∃ name, PlainName name ∧ key = [.name name]

variable {store : MemoryStore} {disk : Disk} {name : String}

/-- An empty store mirrors an empty directory. -/
theorem mirrors_empty (hunlimited : disk.sizeLimit = none)
    (hempty : ∀ place, place ≠ [] →
      disk.tree.lookup? (disk.tree.workingDirectory ++ place) = none) :
    Mirrors {} disk where
  unlimited := hunlimited
  same := fun name _ => hempty [name] (List.cons_ne_nil name [])
  onDisk := by
    intro place entry hplace hentry
    rw [hempty place hplace] at hentry
    cases hentry
  inMemory := by
    intro key text htext
    cases htext

namespace Mirrors

theorem freePlace (hmirrors : store.Mirrors disk) (hname : PlainName name) :
    disk.tree.freePlace ⟨name⟩ =
      if store.holds ⟨name⟩ then .error (.system .alreadyThere)
      else .ok (disk.tree.workingDirectory ++ [name]) := by
  have hsame := hmirrors.same name hname
  rw [MemoryStore.holds]
  cases hread : store.read? ⟨name⟩ with
  | none =>
    rw [hread] at hsame
    exact FileTree.freePlace_eq_ok.mpr ⟨hname.placeOf, hsame⟩
  | some text =>
    rw [hread] at hsame
    exact FileTree.freePlace_of_taken hname.placeOf hsame

theorem holds_eq (hmirrors : store.Mirrors disk) (hname : PlainName name) :
    store.holds ⟨name⟩ = disk.tree.names ⟨name⟩ := by
  have hfree := hmirrors.freePlace hname
  have hsame := hmirrors.same name hname
  cases hread : store.read? ⟨name⟩ with
  | none =>
    have hholds : store.holds ⟨name⟩ = false := by rw [MemoryStore.holds, hread]; rfl
    rw [hholds] at hfree ⊢
    exact (FileTree.not_names_of_freePlace hfree).symm
  | some text =>
    rw [hread] at hsame
    rw [MemoryStore.holds, hread, FileTree.names_of_file hname.placeOf hsame]
    rfl

/-- A file that is created under a free name is in both. -/
theorem holding (hmirrors : store.Mirrors disk) (hname : PlainName name) (content : String) :
    Mirrors ⟨(Path.steps ⟨name⟩, content) :: store.files⟩
      (disk.holding (disk.tree.workingDirectory ++ [name]) (Utf8.encode content)) where
  unlimited := hmirrors.unlimited
  same := by
    intro other hother
    have hread : read? ⟨(Path.steps ⟨name⟩, content) :: store.files⟩ ⟨other⟩ =
        if other = name then some content else store.read? ⟨other⟩ := by
      have hsteps : Path.steps ⟨other⟩ = Path.steps ⟨name⟩ ↔ other = name := by
        rw [hother.steps, hname.steps]
        simp
      rw [read?, lookup_cons_eq_ite]
      simp only [hsteps]
      rfl
    show FileTree.lookup? (disk.tree.put _ _) (disk.tree.workingDirectory ++ [other]) = _
    rw [hread]
    by_cases hsame : other = name
    · rw [if_pos hsame, hsame, FileTree.lookup?_put_same _ (by simp)]
      rfl
    · rw [if_neg hsame, FileTree.lookup?_put_other _ (by simpa using hsame),
        hmirrors.same other hother]
  onDisk := by
    intro place entry hplace hentry
    by_cases hsame : place = [name]
    · exact ⟨name, hname, hsame⟩
    · refine hmirrors.onDisk place entry hplace ?_
      rw [← hentry]
      exact (FileTree.lookup?_put_other _ (by simpa using hsame) _).symm
  inMemory := by
    intro key text htext
    by_cases hsame : key = Path.steps ⟨name⟩
    · exact ⟨name, hname, hsame.trans hname.steps⟩
    · rw [lookup_cons_eq_ite, if_neg hsame] at htext
      exact hmirrors.inMemory key text htext

theorem create_eq (hmirrors : store.Mirrors disk) (hname : PlainName name) (content : String) :
    (store.create ⟨name⟩ content).1 = (disk.create ⟨name⟩ content).1 ∧
      Mirrors (store.create ⟨name⟩ content).2 (disk.create ⟨name⟩ content).2 := by
  have hfits : disk.fits content.utf8ByteSize = true := by
    rw [Disk.fits, hmirrors.unlimited]
    rfl
  rw [Disk.create_eq, hmirrors.freePlace hname, MemoryStore.create]
  by_cases hholds : store.holds ⟨name⟩ = true
  · rw [if_pos hholds, if_pos hholds]
    exact ⟨rfl, hmirrors⟩
  · rw [if_neg hholds, if_neg hholds]
    dsimp only
    rw [if_pos hfits]
    exact ⟨rfl, hmirrors.holding hname content⟩

end Mirrors

end MemoryStore

theorem interchangeable_mirrors :
    Interchangeable (fun path => PlainName path.text) MemoryStore.Mirrors where
  holds := fun hmirrors hname => hmirrors.holds_eq hname
  created := fun content hmirrors hname => (hmirrors.create_eq hname content).1
  leftBehind? := fun content _ _ => (Disk.leftBehind?_eq_none _ _ content).symm
  after := fun content hmirrors hname => (hmirrors.create_eq hname content).2

/-- **A store in memory does what a directory does.**  While all files fit and every path is a plain
    name, operations give the same results with a store in memory as with the directory that it
    mirrors, ask and report the same, and leave it a mirror of the directory after each of them. -/
theorem history_mirrors {π : Type} [Prompter π] {store : MemoryStore} {disk : Disk}
    (hmirrors : store.Mirrors disk) (prompter : π) (threshold : Threshold) (log : List Event)
    {operations : List Operation}
    (hplain : ∀ operation ∈ operations, ∀ path ∈ operation.path?, PlainName path.text) :
    List.Forall₂ (EndsSame MemoryStore.Mirrors)
      (Session.history ⟨store, prompter, threshold, log⟩ operations)
      (Session.history ⟨disk, prompter, threshold, log⟩ operations) :=
  history_endsSame interchangeable_mirrors hplain ⟨hmirrors, rfl, rfl, rfl⟩

/-- A name that is taken, one that is free, and the file that is made there. -/
theorem history_mirrors_home :
    List.Forall₂ (EndsSame MemoryStore.Mirrors)
      (Session.history
        ⟨⟨[([.name "a.py"], "x")]⟩, ({ answers := ["rocket", "", "at", ""] } : Script), .standard, []⟩
        [.create ⟨"a.py"⟩ "y", .generate ⟨"b"⟩ .collapse, .taken ⟨"b"⟩])
      (Session.history
        ⟨⟨⟨[(["home", "a.py"], .file (Utf8.encode "x")), (["home"], .directory)], ["home"]⟩, none⟩,
          ({ answers := ["rocket", "", "at", ""] } : Script), .standard, []⟩
        [.create ⟨"a.py"⟩ "y", .generate ⟨"b"⟩ .collapse, .taken ⟨"b"⟩]) := by
  have hnames : PlainName "a.py" ∧ PlainName "b" :=
    ⟨⟨by decide, by decide, by decide, by decide, by decide, by decide⟩,
      ⟨by decide, by decide, by decide, by decide, by decide, by decide⟩⟩
  have hempty : MemoryStore.Mirrors {} { tree := ⟨[(["home"], .directory)], ["home"]⟩ } := by
    apply MemoryStore.mirrors_empty rfl
    intro place hplace
    simp [FileTree.lookup?, hplace]
  apply history_mirrors (hempty.holding hnames.1 "x")
  intro operation hoperation path hpath
  simp only [List.mem_cons, List.not_mem_nil, or_false] at hoperation
  rcases hoperation with rfl | rfl | rfl
  · cases hpath
    exact hnames.1
  · cases hpath
    exact hnames.2
  · cases hpath
    exact hnames.2

end PlanScaffold
