/-
  PlanScaffold/Toml/Document.lean
  ===============================
  **From expressions to tables.**

  Headers open tables, and the assignments after a header belong to its table until the next
  one.  A table is put in its place when it is closed, so a table that earlier headers
  have implied moves behind its neighbours once its own header opens it.
  No key may be defined twice, and no table may be opened twice.
-/
import PlanScaffold.Toml.Expression

namespace PlanScaffold.Toml

/-- Applies a change to the table that a path of headers leads to; tables that are missing on
    the way are implied by it, and an array of tables stands for its last one. -/
def Entries.within {α : Type} (change : Entries → Option (α × Entries)) :
    List String → Entries → Option (α × Entries)
  | [], entries => change entries
  | part :: rest, entries =>
    match entries.get? part with
    | none => do
      let (result, inner) ← within change rest []
      return (result, entries ++ [(part, .table .implied inner)])
    | some (.table .inline _) => none
    | some (.table origin inner) => do
      let (result, inner) ← within change rest inner
      return (result, entries.replace part (.table origin inner))
    | some (.tables items) => do
      let (result, inner) ← within change rest (← items.getLast?)
      return (result, entries.replace part (.tables (items.dropLast ++ [inner])))
    | some _ => none

/-- Where an open table belongs. -/
inductive Target where
  | document
  | table (path : List String) (last : String)
  | arrayItem (path : List String) (last : String)
deriving DecidableEq, Repr

/-- A document under construction: the closed tables, and the open one with its place. -/
structure Draft where
  closed : Entries
  target : Target
  current : Entries

namespace Draft

def empty : Draft := ⟨[], .document, []⟩

/-- Puts the open table in its place. -/
def close (draft : Draft) : Option Entries :=
  match draft.target with
  | .document => some draft.current
  | .table path last =>
    (Entries.within (fun entries =>
      some ((), entries ++ [(last, .table .header draft.current)])) path draft.closed).map (·.2)
  | .arrayItem path last =>
    (Entries.within (fun entries =>
      match entries.get? last with
      | some (.tables items) => some ((), entries.replace last (.tables (items ++ [draft.current])))
      | _ => none) path draft.closed).map (·.2)

/-- Takes the table a header opens out of the one that holds it: a new one, or one that
    was only implied so far. -/
def takeOpened (last : String) (entries : Entries) : Option (Entries × Entries) :=
  match entries.get? last with
  | none => some ([], entries)
  | some (.table .implied inner) => some (inner, entries.remove last)
  | some _ => none

/-- Makes sure that there is an array of tables to add to. -/
def prepareArray (last : String) (entries : Entries) : Option (Unit × Entries) :=
  match entries.get? last with
  | none => some ((), entries ++ [(last, .tables [])])
  | some (.tables _) => some ((), entries)
  | some _ => none

/-- The draft after one more expression, unless that contradicts an earlier one. -/
def add (draft : Draft) : Expression → Option Draft
  | .nothing => some draft
  | .assign path last value => do
    return { draft with current := ← draft.current.define path last value }
  | .header path last => do
    let (opened, closed) ← Entries.within (takeOpened last) path (← draft.close)
    return ⟨closed, .table path last, opened⟩
  | .arrayHeader path last => do
    let (_, closed) ← Entries.within (prepareArray last) path (← draft.close)
    return ⟨closed, .arrayItem path last, []⟩

end Draft

/-- The top table of a document, if the text is one. -/
def document? (text : String) : Option Entries := do
  let read ← expressions.readAll? text.toList
  let draft ← read.foldlM Draft.add Draft.empty
  draft.close

end PlanScaffold.Toml
