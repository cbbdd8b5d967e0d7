/-
  PlanScaffold/Proofs/Spellings.lean
  ==================================
  **When two spellings are one path.**

  Paths are compared by their steps.  What this comes to for their spellings can be said without
  steps: a separator may be doubled, a point may stand between two separators or behind the
  last one, and a path may end with a separator (`Path.Redundant`).  Two spellings have the same
  steps exactly when such changes lead from one to the other (`Path.steps_eq_iff`).  In particular,
  a point at the very start is a step, and so is `..`.

  One direction is checked for each change.  For the other one, every spelling is brought to a
  shortest one, which is put together from its steps (`Path.respells_spell`).
-/
import Mathlib.Logic.Relation
import PlanScaffold.Path

namespace PlanScaffold.Path

/-- The first spelling says the same as the second one, and has something to spare. -/
inductive Redundant : Path → Path → Prop where
  /-- Between two separators there is nothing, or a point. -/
  | between {middle : String} (hmiddle : middle = "" ∨ middle = ".") (front back : String) :
      Redundant ⟨front ++ "/" ++ middle ++ "/" ++ back⟩ ⟨front ++ "/" ++ back⟩
  | lastPoint (front : String) : Redundant ⟨front ++ "/" ++ "."⟩ ⟨front ++ "/"⟩
  | lastSeparator {front : String} (hfront : front ≠ "") : Redundant ⟨front ++ "/"⟩ ⟨front⟩

/-- Two spellings that differ in nothing but what they have to spare. -/
def Respells : Path → Path → Prop := Relation.EqvGen Redundant

theorem Redundant.respells {path other : Path} (hpath : Redundant path other) :
    path.Respells other :=
  .rel path other hpath

theorem Respells.refl (path : Path) : path.Respells path := Relation.EqvGen.refl path

theorem Respells.symm {path other : Path} (hpath : path.Respells other) : other.Respells path :=
  Relation.EqvGen.symm path other hpath

theorem Respells.trans {path other third : Path} (hpath : path.Respells other)
    (hother : other.Respells third) : path.Respells third :=
  Relation.EqvGen.trans path other third hpath hother

/-! ### The steps of a spelling -/

theorem pieces_append_separator (front back : String) :
    pieces ⟨front ++ "/" ++ back⟩ = pieces ⟨front⟩ ++ pieces ⟨back⟩ := by
  have hcut : (front ++ "/" ++ back).toList.splitOn '/' =
      front.toList.splitOn '/' ++ back.toList.splitOn '/' := by
    have htext : (front ++ "/" ++ back).toList = front.toList ++ '/' :: back.toList := by simp
    rw [htext]
    exact List.splitOn_append_cons_self _ _
  simp only [pieces, hcut, List.map_append]

theorem pieces_ne_nil (path : Path) : path.pieces ≠ [] := by
  simp [pieces, List.splitOn_ne_nil]

/-- The step at the start of a path that is no name, if there is one. -/
def opening (path : Path) : List Step :=
  if path.isAbsolute then [.root] else if path.pieces.head? = some "." then [.here] else []

/-- The steps for which it does not matter where a path begins. -/
def innerSteps (text : String) : List Step := (pieces ⟨text⟩).filterMap Step.ofPiece?

theorem steps_eq (path : Path) : path.steps = path.opening ++ innerSteps path.text := by
  unfold steps opening
  dsimp only
  split
  · rfl
  · split <;> rfl

theorem innerSteps_append_separator (front back : String) :
    innerSteps (front ++ "/" ++ back) = innerSteps front ++ innerSteps back := by
  rw [innerSteps, pieces_append_separator, List.filterMap_append]
  rfl

theorem opening_append_separator (front back : String) :
    opening ⟨front ++ "/" ++ back⟩ = if front = "" then [.root] else opening ⟨front⟩ := by
  have hhead : (pieces ⟨front ++ "/" ++ back⟩).head? = (pieces ⟨front⟩).head? := by
    rw [pieces_append_separator, List.head?_append]
    cases hpieces : pieces ⟨front⟩ with
    | nil => exact (pieces_ne_nil _ hpieces).elim
    | cons piece rest => rfl
  have habsolute : isAbsolute ⟨front ++ "/" ++ back⟩ = (front = "" || isAbsolute ⟨front⟩) := by
    simp only [isAbsolute, String.toList_append, ← String.toList_eq_nil_iff]
    cases front.toList <;> simp
  unfold opening
  rw [habsolute, hhead]
  by_cases hfront : front = "" <;> simp [hfront]

/-- Behind its first separator, a path has no steps but inner ones. -/
theorem steps_append_separator (front back : String) :
    steps ⟨front ++ "/" ++ back⟩ =
      (if front = "" then [.root] else steps ⟨front⟩) ++ innerSteps back := by
  rw [steps_eq, opening_append_separator, innerSteps_append_separator]
  by_cases hfront : front = ""
  · rw [hfront]
    rfl
  · rw [if_neg hfront, if_neg hfront, steps_eq, List.append_assoc]

theorem steps_eq_of_redundant {path other : Path} (hpath : Redundant path other) :
    path.steps = other.steps := by
  have hnothing : innerSteps "" = [] ∧ innerSteps "." = [] := by decide
  have hends : ∀ front, steps ⟨front ++ "/"⟩ = steps ⟨front ++ "/" ++ ""⟩ := by simp
  cases hpath with
  | between hmiddle front back =>
    rename_i middle
    have hsome : front ++ "/" ++ middle ≠ "" := by simp
    have hskip : innerSteps middle = [] := by
      rcases hmiddle with rfl | rfl
      · exact hnothing.1
      · exact hnothing.2
    rw [steps_append_separator, if_neg hsome, steps_append_separator, hskip, List.append_nil,
      steps_append_separator]
  | lastPoint front =>
    rw [hends, steps_append_separator, steps_append_separator, hnothing.1, hnothing.2]
  | lastSeparator hfront =>
    rw [hends, steps_append_separator, if_neg hfront, hnothing.1, List.append_nil]

theorem Respells.steps_eq {path other : Path} (hpath : path.Respells other) :
    path.steps = other.steps := by
  induction hpath with
  | rel path other hredundant => exact steps_eq_of_redundant hredundant
  | refl path => rfl
  | symm path other _ ih => exact ih.symm
  | trans path other third _ _ hfirst hsecond => exact hfirst.trans hsecond

/-! ### The shortest spelling -/

/-- The pieces that are steps wherever they stand. -/
def stepPieces (pieces : List String) : List String :=
  pieces.filter fun piece => (Step.ofPiece? piece).isSome

theorem ofPiece?_isSome_eq_false_iff {piece : String} :
    (Step.ofPiece? piece).isSome = false ↔ piece = "" ∨ piece = "." := by
  unfold Step.ofPiece?
  split
  · next hnothing => simp [hnothing]
  · next hstep => split <;> simp [hstep]

/-- Behind a separator, what is no step can be left out. -/
theorem respells_stepPieces (front : String) (pieces : List String) :
    Respells ⟨front ++ "/" ++ "/".intercalate pieces⟩
      ⟨front ++ "/" ++ "/".intercalate (stepPieces pieces)⟩ := by
  induction pieces generalizing front with
  | nil => exact .refl _
  | cons piece rest ih =>
    cases hpiece : (Step.ofPiece? piece).isSome with
    | true =>
      have hkept : stepPieces (piece :: rest) = piece :: stepPieces rest :=
        List.filter_cons_of_pos hpiece
      rw [hkept]
      by_cases hrest : rest = []
      · rw [hrest]
        exact .refl _
      rw [String.intercalate_cons_of_ne_nil hrest, ← String.append_assoc, ← String.append_assoc]
      refine (ih (front ++ "/" ++ piece)).trans ?_
      by_cases hnone : stepPieces rest = []
      · rw [hnone, String.intercalate_nil, String.append_empty, String.intercalate_singleton]
        exact (Redundant.lastSeparator (by simp)).respells
      · rw [String.intercalate_cons_of_ne_nil hnone, ← String.append_assoc, ← String.append_assoc]
        exact .refl _
    | false =>
      have hskip := ofPiece?_isSome_eq_false_iff.mp hpiece
      have hleft : stepPieces (piece :: rest) = stepPieces rest :=
        List.filter_cons_of_neg (by simp [hpiece])
      rw [hleft]
      refine Respells.trans ?_ (ih front)
      by_cases hrest : rest = []
      · rw [hrest, String.intercalate_singleton, String.intercalate_nil, String.append_empty]
        rcases hskip with rfl | rfl
        · rw [String.append_empty]
          exact .refl _
        · exact (Redundant.lastPoint front).respells
      · rw [String.intercalate_cons_of_ne_nil hrest, ← String.append_assoc, ← String.append_assoc]
        exact (Redundant.between hskip front _).respells

/-- How a step is spelled behind another one. -/
def Step.spelled : Step → String
  | .root => ""
  | .here => "."
  | .up => ".."
  | .name text => text

/-- The shortest spelling with these steps. -/
def spell (steps : List Step) : Path :=
  if steps = [.root] then ⟨"/"⟩ else ⟨"/".intercalate (steps.map Step.spelled)⟩

theorem spell_cons_of_ne_nil {step : Step} {rest : List Step} (hrest : rest ≠ []) :
    spell (step :: rest) = ⟨step.spelled ++ "/" ++ "/".intercalate (rest.map Step.spelled)⟩ := by
  have hmore : step :: rest ≠ [.root] := by simp [hrest]
  have hspelled : rest.map Step.spelled ≠ [] := by simp [hrest]
  rw [spell, if_neg hmore, List.map_cons, String.intercalate_cons_of_ne_nil hspelled]

theorem spell_singleton {step : Step} (hstep : step ≠ .root) : spell [step] = ⟨step.spelled⟩ := by
  have hnamed : [step] ≠ [.root] := by simp [hstep]
  rw [spell, if_neg hnamed, List.map_singleton, String.intercalate_singleton]

theorem spelled_of_ofPiece? {piece : String} {step : Step}
    (hstep : Step.ofPiece? piece = some step) : step.spelled = piece ∧ step ≠ .root := by
  unfold Step.ofPiece? at hstep
  split at hstep
  · cases hstep
  · split at hstep
    · next hup =>
      cases hstep
      exact ⟨hup.symm, by simp⟩
    · cases hstep
      exact ⟨rfl, by simp⟩

theorem map_spelled_innerSteps (text : String) :
    (innerSteps text).map Step.spelled = stepPieces (pieces ⟨text⟩) := by
  unfold innerSteps stepPieces
  induction pieces ⟨text⟩ with
  | nil => rfl
  | cons piece rest ih =>
    cases hpiece : Step.ofPiece? piece with
    | none => rw [List.filterMap_cons_none hpiece, List.filter_cons_of_neg (by simp [hpiece]), ih]
    | some step =>
      rw [List.filterMap_cons_some hpiece, List.filter_cons_of_pos (by simp [hpiece]),
        List.map_cons, ih, (spelled_of_ofPiece? hpiece).1]

theorem pieces_of_notMem {text : String} (hname : '/' ∉ text.toList) : pieces ⟨text⟩ = [text] := by
  rw [pieces, List.splitOn_eq_singleton hname]
  simp

theorem isAbsolute_of_notMem {text : String} (hname : '/' ∉ text.toList) :
    isAbsolute ⟨text⟩ = false := by
  simp only [isAbsolute, beq_eq_false_iff_ne]
  intro hhead
  exact hname (List.mem_of_mem_head? hhead)

/-- A path without separators has one step, which is spelled like the path. -/
theorem exists_steps_eq_singleton {text : String} (htext : text ≠ "") (hname : '/' ∉ text.toList) :
    ∃ step, steps ⟨text⟩ = [step] ∧ step ≠ .root ∧ step.spelled = text := by
  rw [steps_eq, opening, innerSteps, pieces_of_notMem hname, isAbsolute_of_notMem hname]
  by_cases hpoint : text = "."
  · rw [hpoint]
    exact ⟨.here, by decide⟩
  · cases hstep : Step.ofPiece? text with
    | none =>
      have hskip := ofPiece?_isSome_eq_false_iff.mp (by rw [hstep]; rfl)
      exact (hskip.elim htext hpoint).elim
    | some step =>
      obtain ⟨hspelled, hroot⟩ := spelled_of_ofPiece? hstep
      exact ⟨step, by simp [hpoint, hstep], hroot, hspelled⟩

theorem intercalate_pieces (text : String) : "/".intercalate (pieces ⟨text⟩) = text := by
  apply String.toList_injective
  rw [String.toList_intercalate, pieces, List.map_map]
  have hchars : String.toList ∘ String.ofList = id := by
    funext chars
    exact String.toList_ofList
  rw [hchars, List.map_id]
  exact List.intercalate_splitOn '/'

theorem respells_spell (path : Path) : path.Respells (spell path.steps) := by
  obtain ⟨text⟩ := path
  by_cases hseparated : '/' ∈ text.toList
  · obtain ⟨before, after, hcut, hbefore⟩ := List.eq_append_cons_of_mem hseparated
    obtain ⟨front, rfl⟩ : ∃ front : String, front.toList = before :=
      ⟨String.ofList before, String.toList_ofList⟩
    obtain ⟨back, rfl⟩ : ∃ back : String, back.toList = after :=
      ⟨String.ofList after, String.toList_ofList⟩
    obtain rfl : text = front ++ "/" ++ back := by
      apply String.toList_injective
      rw [hcut]
      simp
    have hshort := respells_stepPieces front (pieces ⟨back⟩)
    rw [intercalate_pieces, ← map_spelled_innerSteps] at hshort
    refine hshort.trans ?_
    rw [steps_append_separator]
    by_cases hfront : front = ""
    · subst hfront
      by_cases hback : innerSteps back = []
      · rw [hback]
        exact .refl _
      · rw [if_pos rfl, List.singleton_append, spell_cons_of_ne_nil hback]
        exact .refl _
    · have hname : '/' ∉ front.toList := hbefore
      obtain ⟨step, hsteps, hroot, hspelled⟩ := exists_steps_eq_singleton hfront hname
      rw [if_neg hfront, hsteps, List.singleton_append]
      by_cases hback : innerSteps back = []
      · rw [hback, spell_singleton hroot, hspelled, List.map_nil, String.intercalate_nil,
          String.append_empty]
        exact (Redundant.lastSeparator hfront).respells
      · rw [spell_cons_of_ne_nil hback, hspelled]
        exact .refl _
  · by_cases htext : text = ""
    · rw [htext]
      exact .refl _
    · obtain ⟨step, hsteps, hroot, hspelled⟩ := exists_steps_eq_singleton htext hseparated
      rw [hsteps, spell_singleton hroot, hspelled]
      exact .refl _

/-- **Two spellings have the same steps exactly when they differ in what they have to spare.** -/
theorem steps_eq_iff {path other : Path} : path.steps = other.steps ↔ path.Respells other := by
  constructor
  · intro hsteps
    have hother := respells_spell other
    rw [← hsteps] at hother
    exact (respells_spell path).trans hother.symm
  · exact Respells.steps_eq

/-- A point is a step at the very start only, and `..` is one everywhere. -/
example : Respells ⟨"a//b/./c/"⟩ ⟨"a/b/c"⟩ ∧ ¬Respells ⟨"./a"⟩ ⟨"a"⟩ ∧
    ¬Respells ⟨"a/../b"⟩ ⟨"b"⟩ := by
  simp only [← steps_eq_iff]
  decide

end PlanScaffold.Path
