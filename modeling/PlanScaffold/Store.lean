/-
  PlanScaffold/Store.lean
  =======================
  **Where skeletons are put.**

  A store knows which paths are taken, and puts a text at a path that is not.  It never
  replaces anything.  `MemoryStore` keeps the texts itself, under the steps of their
  paths, so that two spellings of one path are one key.
-/
import PlanScaffold.Fault

namespace PlanScaffold

/-- Something that keeps texts under paths. -/
class SkeletonStore (σ : Type) where
  /-- Whether the path is taken. -/
  holds : σ → Path → Bool
  /-- Puts a text at a free path; a store that fails to do so is left as it was. -/
  create : σ → Path → String → Except Fault Unit × σ
  /-- Why a part of the text stays at the path after a failure, if one does. -/
  leftBehind? : σ → Path → String → Option IoFault

/-- Texts by the steps of their paths. -/
structure MemoryStore where
  files : List (List Path.Step × String) := []
deriving DecidableEq, Repr

namespace MemoryStore

def read? (store : MemoryStore) (path : Path) : Option String :=
  store.files.lookup path.steps

def isEmpty (store : MemoryStore) : Bool := store.files.isEmpty

/-- The store with a text at a path, in place of what was there. -/
def withFile (store : MemoryStore) (path : Path) (content : String) : MemoryStore :=
  ⟨(path.steps, content) :: store.files.filter fun file => file.1 != path.steps⟩

def holds (store : MemoryStore) (path : Path) : Bool := (store.read? path).isSome

/-- Puts a text at a path that has none. -/
def create (store : MemoryStore) (path : Path) (content : String) :
    Except Fault Unit × MemoryStore :=
  if store.holds path then (.error (.destinationExists path), store)
  else (.ok (), ⟨(path.steps, content) :: store.files⟩)

instance : SkeletonStore MemoryStore where
  holds := holds
  create := create
  leftBehind? _ _ _ := none

end MemoryStore

end PlanScaffold
