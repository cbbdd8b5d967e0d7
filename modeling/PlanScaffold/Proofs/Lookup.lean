/-
  PlanScaffold/Proofs/Lookup.lean
  ===============================
  **What is found where something was put.**

  Stores in memory and file trees keep what they have in a list of pairs, of which the first one with
  a key counts.  An entry takes the place of another one when all entries with its key are taken out
  and it is put in front of the rest.  What is found at other keys stays the same.
-/
import PlanScaffold.FileTree
import PlanScaffold.Store

namespace PlanScaffold

/-! ### Lists of entries -/

section Entries

variable {α β : Type} [BEq α] [LawfulBEq α] {key other : α}

theorem lookup_filter_ne (hother : other ≠ key) (entries : List (α × β)) :
    (entries.filter fun known => known.1 != key).lookup other = entries.lookup other := by
  induction entries with
  | nil => rfl
  | cons known rest ih =>
    by_cases hhidden : known.1 = key
    · rw [List.filter_cons_of_neg (by simp [hhidden]), List.lookup_cons, hhidden,
        beq_false_of_ne hother]
      exact ih
    · rw [List.filter_cons_of_pos (by simpa using hhidden), List.lookup_cons, List.lookup_cons, ih]

variable [DecidableEq α]

theorem lookup_cons_eq_ite (value : β) (entries : List (α × β)) :
    ((key, value) :: entries).lookup other =
      if other = key then some value else entries.lookup other := by
  rw [List.lookup_cons]
  by_cases hsame : other = key
  · simp [hsame]
  · rw [if_neg hsame, beq_false_of_ne hsame]

theorem lookup_replace (value : β) (entries : List (α × β)) :
    ((key, value) :: entries.filter fun known => known.1 != key).lookup other =
      if other = key then some value else entries.lookup other := by
  rw [lookup_cons_eq_ite]
  by_cases hsame : other = key
  · rw [if_pos hsame, if_pos hsame]
  · rw [if_neg hsame, if_neg hsame, lookup_filter_ne hsame]

end Entries

/-! ### Stores in memory -/

namespace MemoryStore

variable {store : MemoryStore} {path : Path}

theorem read?_create (hfree : store.holds path = false) (other : Path) (content : String) :
    (store.create path content).2.read? other =
      if other.steps = path.steps then some content else store.read? other := by
  simp only [create, hfree, Bool.false_eq_true, if_false]
  exact lookup_cons_eq_ite content store.files

theorem create_of_free (hfree : store.holds path = false) (content : String) :
    (store.create path content).1 = .ok () := by
  simp [create, hfree]

theorem create_of_holds (htaken : store.holds path = true) (content : String) :
    store.create path content = (.error (.destinationExists path), store) := by
  simp [create, htaken]

end MemoryStore

/-! ### File trees -/

namespace FileTree

variable {place other : Place}

theorem lookup?_put_same (tree : FileTree) (hplace : place ≠ []) (entry : Entry) :
    (tree.put place entry).lookup? place = some entry := by
  simp [lookup?, put]

theorem lookup?_put_other (tree : FileTree) (hother : other ≠ place) (entry : Entry) :
    (tree.put place entry).lookup? other = tree.lookup? other := by
  unfold lookup?
  split
  · rfl
  · exact (lookup_replace entry tree.entries).trans (if_neg hother)

end FileTree

end PlanScaffold
