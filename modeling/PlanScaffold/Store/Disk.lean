/-
  PlanScaffold/Store/Disk.lean
  ============================
  **Skeletons as files.**

  A file is created in steps, each of which is one call to the system: it is opened
  exclusively, which fails if there is any entry of that name; bytes are added to it, as many as
  the greatest file size allows; and if they do not all fit, the file is removed
  again by its path.  Should it not be found there, it is left behind.
-/
import PlanScaffold.FileTree
import PlanScaffold.Store

namespace PlanScaffold

/-- A file tree, and the greatest size of a file if there is one. -/
structure Disk where
  tree : FileTree
  sizeLimit : Option Nat := none
deriving DecidableEq, Repr

namespace Disk

/-- Makes a new empty file, and tells its place. -/
def openNew (disk : Disk) (path : Path) : Except IoFault (Place × Disk) := do
  let place ← disk.tree.freePlace path
  return (place, { disk with tree := disk.tree.put place (.file []) })

def contentAt (disk : Disk) (place : Place) : Bytes :=
  match disk.tree.lookup? place with
  | some (.file content) => content
  | _ => []

/-- How many bytes there may be in a file that would need `wanted`. -/
def room (disk : Disk) (wanted : Nat) : Nat :=
  match disk.sizeLimit with
  | none => wanted
  | some limit => min limit wanted

/-- Adds bytes to the file at a place, as many as there is room for. -/
def append (disk : Disk) (place : Place) (bytes : Bytes) : Except IoFault Unit × Disk :=
  let wanted := disk.contentAt place ++ bytes
  let kept := wanted.take (disk.room wanted.length)
  let written := { disk with tree := disk.tree.put place (.file kept) }
  if kept.length = wanted.length then (.ok (), written)
  else (.error (.system .fileTooLarge), written)

/-- The disk without the file or link that a path names. -/
def removed (disk : Disk) (path : Path) : Except IoFault Disk := do
  let place ← disk.tree.placeOf path
  match disk.tree.lookup? place with
  | none => .error (.system .noEntry)
  | some .directory => .error (.system .isADirectory)
  | some _ => .ok { disk with tree := disk.tree.erase place }

/-- Removes the file or link a path names, if there is one. -/
def remove (disk : Disk) (path : Path) : Disk :=
  match disk.removed path with
  | .error _ => disk
  | .ok after => after

/-- The fault of a file that could not be opened. -/
def openFault (path : Path) (cause : IoFault) : Fault :=
  if cause = .system .alreadyThere then .destinationExists path else .io cause

/-- Makes a new file with this text, or none. -/
def create (disk : Disk) (path : Path) (content : String) : Except Fault Unit × Disk :=
  match disk.openNew path with
  | .error cause => (.error (openFault path cause), disk)
  | .ok (place, opened) =>
    match opened.append place (Utf8.encode content) with
    | (.ok (), written) => (.ok (), written)
    | (.error cause, written) => (.error (.io cause), written.remove path)

/-- Why the new file could not be removed again, if it had to be and could not. -/
def leftBehind? (disk : Disk) (path : Path) (content : String) : Option IoFault :=
  match disk.openNew path with
  | .error _ => none
  | .ok (place, opened) =>
    match opened.append place (Utf8.encode content) with
    | (.ok (), _) => none
    | (.error _, written) =>
      match written.removed path with
      | .ok _ => none
      | .error cause => some cause

instance : SkeletonStore Disk where
  holds disk path := disk.tree.names path
  create := create
  leftBehind? := leftBehind?

end Disk

end PlanScaffold
