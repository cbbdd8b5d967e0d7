/-
  PlanScaffold/Proofs/Disk/Creation.lean
  ======================================
  **A file is created whole, or not at all.**

  `Disk.create` opens a new file, adds bytes to it and removes it again if they do not all fit.
  The removal goes by the path and not by the open file, so that it has to resolve the path a
  second time, in a tree that has changed; it finds the same place (`removed_holding`).

  All that is said of `Disk.create` elsewhere follows from `create_eq`: it fails without a trace when
  no new entry can be made at the path, and otherwise the size of the text decides.
-/
import PlanScaffold.Proofs.FileTree.Resolution
import PlanScaffold.Store.Disk

namespace PlanScaffold

/-- One tree is another and one regular file more.  The path led to a place where nothing was, not
    even a link that leads nowhere, and it leads to the file now. -/
structure FileTree.Gains (before : FileTree) (path : Path) (place : Place) (bytes : Bytes)
    (after : FileTree) : Prop where
  placeOf : before.placeOf path = .ok place
  free : before.lookup? place = none
  unnamed : before.names path = false
  file : after.lookup? place = some (.file bytes)
  named : after.readBytes path = .ok bytes
  others : ∀ other, other ≠ place → after.lookup? other = before.lookup? other
  workingDirectory : after.workingDirectory = before.workingDirectory

theorem FileTree.gains_put {tree : FileTree} {path : Path} {place : Place}
    (hfree : tree.freePlace path = .ok place) (bytes : Bytes) :
    tree.Gains path place bytes (tree.put place (.file bytes)) where
  placeOf := (freePlace_eq_ok.mp hfree).1
  free := (freePlace_eq_ok.mp hfree).2
  unnamed := not_names_of_freePlace hfree
  file := lookup?_put_same tree (ne_root_of_lookup?_eq_none (freePlace_eq_ok.mp hfree).2) _
  named := readBytes_put hfree bytes
  others := fun _ hother => lookup?_put_other tree hother _
  workingDirectory := rfl

namespace Disk

variable {disk : Disk} {path : Path} {place : Place}

/-! ### The calls to the system -/

def holding (disk : Disk) (place : Place) (bytes : Bytes) : Disk :=
  { disk with tree := disk.tree.put place (.file bytes) }

/-- Whether a file of this size may be on the disk. -/
def fits (disk : Disk) (size : Nat) : Bool := disk.sizeLimit.all (size ≤ ·)

theorem openNew_of_free (hfree : disk.tree.freePlace path = .ok place) :
    disk.openNew path = .ok (place, disk.holding place []) := by
  rw [openNew, hfree]
  rfl

theorem openNew_of_error {cause : IoFault} (hfault : disk.tree.freePlace path = .error cause) :
    disk.openNew path = .error cause := by
  rw [openNew, hfault]
  rfl

theorem contentAt_holding (hfree : disk.tree.lookup? place = none) (bytes : Bytes) :
    (disk.holding place bytes).contentAt place = bytes := by
  unfold contentAt holding
  rw [FileTree.lookup?_put_same disk.tree (FileTree.ne_root_of_lookup?_eq_none hfree)]

theorem length_take_room {bytes : Bytes} :
    (bytes.take (disk.room bytes.length)).length = bytes.length ↔ disk.fits bytes.length := by
  unfold room fits
  cases disk.sizeLimit with
  | none => simp
  | some limit =>
    simp only [List.length_take, Option.all_some, decide_eq_true_eq]
    omega

theorem append_holding (hfree : disk.tree.lookup? place = none) (written part : Bytes) :
    (disk.holding place written).append place part =
      if disk.fits (written ++ part).length then (.ok (), disk.holding place (written ++ part))
      else (.error (.system .fileTooLarge),
        disk.holding place ((written ++ part).take (disk.room (written ++ part).length))) := by
  have hroom : ∀ size, (disk.holding place written).room size = disk.room size := fun _ => rfl
  have hput : ∀ kept : Bytes,
      (⟨(disk.holding place written).tree.put place (.file kept),
        (disk.holding place written).sizeLimit⟩ : Disk) = disk.holding place kept := by
    intro kept
    simp [holding]
  simp only [append, contentAt_holding hfree, hroom, hput]
  by_cases hfits : disk.fits (written ++ part).length
  · have hlength := length_take_room.mpr hfits
    rw [if_pos hlength, if_pos hfits, List.take_of_length_le]
    have hle := List.length_take_le (disk.room (written ++ part).length) (written ++ part)
    omega
  · rw [if_neg (fun hlength => hfits (length_take_room.mp hlength)), if_neg hfits]

/-- The file that was made at a free place can be removed by its path, and leaves nothing
    behind. -/
theorem removed_holding (hfree : disk.tree.freePlace path = .ok place) (bytes : Bytes) :
    (disk.holding place bytes).removed path = .ok disk := by
  have hnothing := (FileTree.freePlace_eq_ok.mp hfree).2
  unfold removed holding
  simp only [FileTree.placeOf_put hfree, bind, Except.bind,
    FileTree.lookup?_put_same disk.tree (FileTree.ne_root_of_lookup?_eq_none hnothing),
    FileTree.erase_put hnothing]

theorem remove_holding (hfree : disk.tree.freePlace path = .ok place) (bytes : Bytes) :
    (disk.holding place bytes).remove path = disk := by
  rw [remove, removed_holding hfree]

/-! ### Creation -/

/-- What creating a file does, in one equation. -/
theorem create_eq (disk : Disk) (path : Path) (content : String) :
    disk.create path content =
      match disk.tree.freePlace path with
      | .error cause => (.error (openFault path cause), disk)
      | .ok place =>
        if disk.fits content.utf8ByteSize then
          (.ok (), disk.holding place (Utf8.encode content))
        else (.error (.io (.system .fileTooLarge)), disk) := by
  cases hfree : disk.tree.freePlace path with
  | error cause => rw [create, openNew_of_error hfree]
  | ok place =>
    have happend := append_holding (FileTree.freePlace_eq_ok.mp hfree).2 [] (Utf8.encode content)
    rw [List.nil_append, Utf8.length_encode] at happend
    rw [create, openNew_of_free hfree]
    by_cases hfits : disk.fits content.utf8ByteSize
    · simp only [happend, if_pos hfits]
    · simp only [happend, if_neg hfits, remove_holding hfree]

/-- No part of a file is ever left behind, so this is never reported. -/
theorem leftBehind?_eq_none (disk : Disk) (path : Path) (content : String) :
    disk.leftBehind? path content = none := by
  cases hfree : disk.tree.freePlace path with
  | error cause => rw [leftBehind?, openNew_of_error hfree]
  | ok place =>
    have happend := append_holding (FileTree.freePlace_eq_ok.mp hfree).2 [] (Utf8.encode content)
    rw [leftBehind?, openNew_of_free hfree]
    by_cases hfits : disk.fits ([] ++ Utf8.encode content).length
    · simp only [happend, if_pos hfits]
    · simp only [happend, if_neg hfits, removed_holding hfree]

/-- **Creation is atomic.**  Either it succeeds, and then the path led to nothing at all and the disk
    has one more file, with exactly the bytes of the text; or it fails, and then the disk is as it
    was.  Once the file could be opened, it succeeds exactly when the text is within the greatest
    size of a file. -/
theorem create_atomic (disk : Disk) (path : Path) (content : String) :
    (((disk.create path content).1 = .ok () ∧
        (disk.create path content).2.sizeLimit = disk.sizeLimit ∧
        ∃ place, disk.tree.Gains path place (Utf8.encode content)
          (disk.create path content).2.tree) ∨
      ∃ fault, (disk.create path content).1 = .error fault ∧
        (disk.create path content).2 = disk) ∧
    (disk.create path content).1 =
      match disk.openNew path with
      | .error cause => .error (openFault path cause)
      | .ok _ =>
        if disk.fits content.utf8ByteSize then .ok ()
        else .error (.io (.system .fileTooLarge)) := by
  rw [create_eq]
  cases hfree : disk.tree.freePlace path with
  | error cause =>
    rw [openNew_of_error hfree]
    exact ⟨.inr ⟨_, rfl, rfl⟩, rfl⟩
  | ok place =>
    rw [openNew_of_free hfree]
    dsimp only
    by_cases hfits : disk.fits content.utf8ByteSize
    · rw [if_pos hfits, if_pos hfits]
      exact ⟨.inl ⟨rfl, rfl, place, FileTree.gains_put hfree _⟩, rfl⟩
    · rw [if_neg hfits, if_neg hfits]
      exact ⟨.inr ⟨_, rfl, rfl⟩, rfl⟩

-- a text of the greatest size, and an empty text where no byte may be written
example : (create { tree := {}, sizeLimit := some 2 } ⟨"a"⟩ "xy").1 = .ok () := by cbv
example : (create { tree := {}, sizeLimit := some 0 } ⟨"a"⟩ "").1 = .ok () := by cbv

end Disk

end PlanScaffold
