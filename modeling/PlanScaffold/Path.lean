/-
  PlanScaffold/Path.lean
  ======================
  **Paths as they were written, and the steps they name.**

  A path keeps its spelling, because messages show it as it was given.  Two spellings
  name the same thing without looking at any file when their *steps* agree:
  repeated separators and `.` inside a path are no steps, while a leading `.` and every
  `..` are.  File systems resolve a path piece by piece (`pieces`), and there a
  trailing separator still matters.

  A spelling is a text.  Paths and arguments that are no text, because their bytes are not UTF-8,
  are left out.
-/
namespace PlanScaffold

/-- A path, by its spelling. -/
structure Path where
  text : String
deriving DecidableEq, Repr, Inhabited

namespace Path

/-- One step of a path. -/
inductive Step where
  | root
  | here
  | up
  | name (text : String)
deriving DecidableEq, Repr

/-- What stands between the separators, empty pieces included. -/
def pieces (path : Path) : List String :=
  (path.text.toList.splitOn '/').map String.ofList

def isAbsolute (path : Path) : Bool := path.text.toList.head? == some '/'

/-- The step a piece stands for, if it is one. -/
def Step.ofPiece? (piece : String) : Option Step :=
  if piece = "" ∨ piece = "." then none
  else if piece = ".." then some .up
  else some (.name piece)

def steps (path : Path) : List Step :=
  let inner := path.pieces.filterMap Step.ofPiece?
  if path.isAbsolute then .root :: inner
  else if path.pieces.head? = some "." then .here :: inner
  else inner

/-- The last step, if it is an ordinary name. -/
def fileName? (path : Path) : Option String :=
  match path.steps.getLast? with
  | some (.name text) => some text
  | _ => none

/-- What follows the last point of a file name, unless that point begins the name. -/
def extension? (path : Path) : Option String := do
  let reversed := (← path.fileName?).toList.reverse
  match reversed.dropWhile (· != '.') with
  | _ :: _ :: _ => some (String.ofList (reversed.takeWhile (· != '.')).reverse)
  | _ => none

def isPythonModule (path : Path) : Bool := path.extension? == some "py"

/-- The path of an entry of a directory; the entry's name is no path of its own. -/
def child (directory : Path) (name : String) : Path :=
  match directory.text.toList.getLast? with
  | none => ⟨name⟩
  | some '/' => ⟨directory.text ++ name⟩
  | some _ => ⟨directory.text ++ "/" ++ name⟩

end Path

end PlanScaffold
