/-
  PlanScaffold/FileTree.lean
  ==========================
  **Directories, files and symbolic links.**

  A tree lists what there is at each place, where a place is the list of names that lead to
  it from the root without any link.  `walk` follows a path piece by piece, through links
  and `..`, to a place.  `freePlace` finds where a new entry may be made: it follows
  links on the way there, but never at the last name, so a link that leads nowhere
  still takes its place.
-/
import PlanScaffold.Fault
import PlanScaffold.Text.Utf8

namespace PlanScaffold

/-- A place in a tree: the names from the root down. -/
abbrev Place := List String

inductive Entry where
  | file (content : Bytes)
  | directory
  | link (target : Path)
deriving DecidableEq, Repr

/-- What is at each place other than the root, and the place where relative paths start. -/
structure FileTree where
  entries : List (Place × Entry) := []
  workingDirectory : Place := []
deriving DecidableEq, Repr

namespace FileTree

/-- What is at a place.  The root is a directory. -/
def lookup? (tree : FileTree) : Place → Option Entry
  | [] => some .directory
  | place => tree.entries.lookup place

/-- The tree with an entry at a place, in place of what was there. -/
def put (tree : FileTree) (place : Place) (entry : Entry) : FileTree :=
  { tree with entries := (place, entry) :: tree.entries.filter fun known => known.1 != place }

def erase (tree : FileTree) (place : Place) : FileTree :=
  { tree with entries := tree.entries.filter fun known => known.1 != place }

/-! ### Walking -/

/-- The greatest number of bytes in a name. -/
def nameLimit : Nat := 255

/-- The number of bytes in a path that is too long. -/
def pathLimit : Nat := 4096

/-- The greatest number of links on one walk. -/
def linkLimit : Nat := 40

/-- The place that pieces of a path lead to from a place that is a directory, through at most
    `links` links. -/
def walk (tree : FileTree) (links : Nat) (start : Place) :
    List String → Except SystemFault Place
  | [] => .ok start
  | piece :: rest =>
    if piece = "" ∨ piece = "." then walk tree links start rest
    else if piece = ".." then walk tree links start.dropLast rest
    else if nameLimit < piece.utf8ByteSize then .error .nameTooLong
    else
      match tree.lookup? (start ++ [piece]) with
      | none => .error .noEntry
      | some .directory => walk tree links (start ++ [piece]) rest
      | some (.file _) => if rest = [] then .ok (start ++ [piece]) else .error .notADirectory
      | some (.link target) =>
        match links with
        | 0 => .error .linkLoop
        | links + 1 =>
          walk tree links (if target.isAbsolute then [] else start) (target.pieces ++ rest)
termination_by pieces => (links, pieces.length)

/-- A path that can be handed to the system at all. -/
def checkPath (path : Path) : Except IoFault Unit :=
  if path.text.toList.contains '\x00' then .error .nulInPath
  else if path.text = "" then .error (.system .noEntry)
  else if pathLimit ≤ path.text.utf8ByteSize then .error (.system .nameTooLong)
  else .ok ()

def startOf (tree : FileTree) (path : Path) : Place :=
  if path.isAbsolute then [] else tree.workingDirectory

/-- The place of what a path names, links followed. -/
def locate (tree : FileTree) (path : Path) : Except IoFault Place := do
  checkPath path
  (walk tree linkLimit (tree.startOf path) path.pieces).mapError .system

/-- Whether a path names something, links followed. -/
def names (tree : FileTree) (path : Path) : Bool := (tree.locate path).isOk

/-- The pieces before the last name of a path, that name, and whether separators follow it;
    `none` if the path has only separators. -/
def lastPiece? (path : Path) : Option (List String × String × Bool) :=
  let reversed := path.pieces.reverse
  match reversed.dropWhile (· == "") with
  | [] => none
  | last :: before => some (before.reverse, last, reversed.head? == some "")

/-- The place at which a path names an entry of a directory, the last name not followed. -/
def placeOf (tree : FileTree) (path : Path) : Except IoFault Place := do
  checkPath path
  match lastPiece? path with
  | none => .error (.system .alreadyThere)
  | some (before, last, separated) =>
    -- the piece `.` asks for a directory
    let parent ← (walk tree linkLimit (tree.startOf path) (before ++ ["."])).mapError .system
    if last = "." ∨ last = ".." then .error (.system .alreadyThere)
    else if separated then .error (.system .isADirectory)
    else if nameLimit < last.utf8ByteSize then .error (.system .nameTooLong)
    else .ok (parent ++ [last])

/-- The place at which a path would make a new entry, if nothing is there. -/
def freePlace (tree : FileTree) (path : Path) : Except IoFault Place := do
  let place ← tree.placeOf path
  match tree.lookup? place with
  | some _ => .error (.system .alreadyThere)
  | none => .ok place

/-! ### Contents -/

def readBytes (tree : FileTree) (path : Path) : Except IoFault Bytes := do
  match tree.lookup? (← tree.locate path) with
  | some (.file content) => .ok content
  | some .directory => .error (.system .isADirectory)
  | _ => .error (.system .noEntry)

def readText (tree : FileTree) (path : Path) : Except IoFault String := do
  match Utf8.decode? (← tree.readBytes path) with
  | some text => .ok text
  | none => .error .notUtf8

/-- The regular files below a place, by their paths from there. -/
def filesBelow (tree : FileTree) (top : Place) : List (String × Bytes) :=
  tree.entries.filterMap fun (place, entry) =>
    match entry with
    | .file content =>
      if top.isPrefixOf place then some ("/".intercalate (place.drop top.length), content)
      else none
    | _ => none

/-! ### Building a tree -/

/-- The tree with this file.  Where the path names a file, that file gets the new content. -/
def withFile (tree : FileTree) (path : Path) (content : Bytes) : Except IoFault FileTree := do
  match tree.locate path with
  | .ok place =>
    match tree.lookup? place with
    | some (.file _) => .ok (tree.put place (.file content))
    | _ => .error (.system .isADirectory)
  | .error _ => return tree.put (← tree.freePlace path) (.file content)

def withLink (tree : FileTree) (path target : Path) : Except IoFault FileTree := do
  return tree.put (← tree.freePlace path) (.link target)

/-- The tree with this directory, unless there is one. -/
def withDirectory (tree : FileTree) (path : Path) : Except IoFault FileTree :=
  match tree.locate ⟨path.text ++ "/"⟩ with
  | .ok _ => .ok tree
  | .error _ => do return tree.put (← tree.freePlace path) .directory

/-- The tree with the directory that the pieces lead to, and all on the way. -/
def withDirectories (tree : FileTree) (path : Path) : Except IoFault FileTree :=
  let openings := (List.range path.pieces.length).map fun count =>
    "/".intercalate (path.pieces.take (count + 1))
  (openings.filter fun text => text != "").foldlM
    (fun tree text => tree.withDirectory ⟨text⟩) tree

end FileTree

end PlanScaffold
