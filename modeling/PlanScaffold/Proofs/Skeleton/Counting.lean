/-
  PlanScaffold/Proofs/Skeleton/Counting.lean
  ==========================================
  **How many lines a skeleton has.**

  As long as no line feed stands in the answers, the lines of a skeleton are those it was made of
  (`linesIn_textOf`), and how many there are of each kind depends on the number of tokens alone.

  A token stands between two fixed parts of its line.  In front of it are spaces, so that its line is
  not taken for a head; and with it there is a quotation mark or a colon, neither of which is in the
  mark of a stub.  So it does not matter what the token is, and each section can be counted by
  itself (`Overlooks.countP_lines`).
-/
import PlanScaffold.Proofs.Skeleton.Recovery

namespace PlanScaffold

/-! ### The lines of a text -/

/-- What stands between the line feeds of a text, which is nothing behind the last one if that ends
    the text. -/
def linesIn (text : String) : List String := (text.toList.splitOn '\n').map String.ofList

theorem linesIn_textOf {lines : List String} (hlines : ∀ line ∈ lines, OneLine line) :
    linesIn (textOf lines) = lines ++ [""] := by
  induction lines with
  | nil => rfl
  | cons line rest ih =>
    obtain ⟨hline, hrest⟩ := List.forall_mem_cons.mp hlines
    have hafter := ih hrest
    unfold linesIn at hafter ⊢
    rw [textOf_cons, List.splitOn_append_cons_self_of_not_mem hline, List.map_cons, hafter,
      String.ofList_toList, List.cons_append]

theorem count_lineFeed_textOf {lines : List String} (hlines : ∀ line ∈ lines, OneLine line) :
    (textOf lines).toList.count '\n' = lines.length := by
  induction lines with
  | nil => rfl
  | cons line rest ih =>
    obtain ⟨hline, hrest⟩ := List.forall_mem_cons.mp hlines
    rw [textOf_cons, List.count_append, List.count_eq_zero_of_not_mem hline, Nat.zero_add,
      List.count_cons_self, ih hrest, List.length_cons]

theorem getLast?_textOf {lines : List String} (hlines : lines ≠ []) :
    (textOf lines).toList.getLast? = some '\n' := by
  obtain ⟨front, last, rfl⟩ := List.eq_nil_or_concat lines |>.resolve_left hlines
  rw [List.concat_eq_append, textOf_append]
  simp [textOf]

/-- The text begins with these characters. -/
def Begins (start line : String) : Prop := start.toList <+: line.toList

instance (start line : String) : Decidable (Begins start line) :=
  inferInstanceAs (Decidable (_ <+: _))

/-! ### Counting in blocks -/

section Blocks

variable {p : String → Bool} {stub : String → List String}

theorem countP_stubs (hempty : p "" = false) {number : Nat}
    (hstub : ∀ token, (stub token).countP p = number) (tokens : List String) :
    (spaced (tokens.map stub)).countP p = number * tokens.length := by
  have hskip : ¬p "" = true := by simp [hempty]
  induction tokens with
  | nil => rfl
  | cons token rest ih =>
    cases rest with
    | nil => simp [hstub]
    | cons next rest =>
      rw [List.map_cons] at ih ⊢
      rw [List.map_cons, spaced_cons_cons, List.countP_append, List.countP_cons_of_neg hskip, ih,
        hstub]
      exact (Nat.add_comm _ _).trans (Nat.mul_succ _ _).symm

theorem length_stubs_cons {size : Nat} (hstub : ∀ token, (stub token).length = size)
    (token : String) (tokens : List String) :
    (spaced ((token :: tokens).map stub)).length = size + (size + 1) * tokens.length := by
  induction tokens generalizing token with
  | nil => simp [hstub]
  | cons next rest ih =>
    rw [List.map_cons, List.map_cons, spaced_cons_cons, List.length_append, List.length_cons,
      ← List.map_cons, ih, hstub, List.length_cons, Nat.mul_succ]
    omega

/-- Stubs of the same size have a blank line between any two. -/
theorem length_stubs {size : Nat} (hstub : ∀ token, (stub token).length = size)
    (tokens : List String) :
    (spaced (tokens.map stub)).length =
      if 0 < tokens.length then (size + 1) * tokens.length - 1 else 0 := by
  cases tokens with
  | nil => rfl
  | cons token rest =>
    rw [length_stubs_cons hstub, List.length_cons, if_pos (Nat.succ_pos _), Nat.mul_succ]
    omega

end Blocks

namespace Skeleton

/-! ### Counting in a skeleton -/

theorem length_lines (answers : Answers) :
    (lines answers).length = 26 + answers.types.length +
      (if 0 < answers.predicates.length then 4 * answers.predicates.length - 1 else 0) +
      (if 0 < answers.actions.length then 7 * answers.actions.length - 1 else 0) := by
  have hpredicates : (predicateStubs answers.predicates).length = _ :=
    @length_stubs predicateStub 3 (fun _ => rfl) answers.predicates
  have hactions : (actionStubs answers.actions).length = _ :=
    @length_stubs actionStub 6 (fun _ => rfl) answers.actions
  have hproblem : problemStubs.length = 14 := by decide
  rw [lines_eq]
  simp only [List.length_append, List.length_cons, List.length_nil, List.length_map, domainHeader,
    typeDeclarations, hpredicates, hactions, problemHeader, hproblem, Nat.reduceAdd]
  omega

/-- Neither a blank line is counted nor one with a token in it. -/
structure Overlooks (p : String → Bool) : Prop where
  blank : p "" = false
  declaration : ∀ token, p (typeDeclaration token) = false
  signature : ∀ token, p ("    def " ++ token ++ "(self):") = false

namespace Overlooks

variable {p : String → Bool}

theorem countP_predicateStub (hp : Overlooks p) (token : String) :
    (predicateStub token).countP p = (predicateStub "").countP p := by
  simp only [predicateStub, List.countP_cons, hp.signature]

theorem countP_actionStub (hp : Overlooks p) (token : String) :
    (actionStub token).countP p = (actionStub "").countP p := by
  simp only [actionStub, List.countP_cons, hp.signature]

theorem countP_lines (hp : Overlooks p) (answers : Answers) :
    (lines answers).countP p =
      (domainHeader answers.name ++ problemHeader answers.name ++ problemStubs).countP p +
      (predicateStub "").countP p * answers.predicates.length +
      (actionStub "").countP p * answers.actions.length := by
  have htypes : (typeDeclarations answers.types).countP p = 0 := by
    rw [typeDeclarations, List.countP_eq_zero]
    intro line hline
    obtain ⟨token, -, rfl⟩ := List.mem_map.mp hline
    simp [hp.declaration token]
  have hpredicates : (predicateStubs answers.predicates).countP p = _ :=
    countP_stubs hp.blank hp.countP_predicateStub answers.predicates
  have hactions : (actionStubs answers.actions).countP p = _ :=
    countP_stubs hp.blank hp.countP_actionStub answers.actions
  have hskip : ¬p "" = true := by simp [hp.blank]
  rw [lines_eq]
  simp only [List.countP_append, List.countP_cons_of_neg hskip, htypes, hpredicates, hactions]
  omega

/-- In the text of a skeleton, each section is counted by itself. -/
theorem countP_linesIn_render (hp : Overlooks p) {answers : Answers} (hfree : answers.LineFree)
    {fixed eachPredicate eachAction : Nat}
    (hfixed : (domainHeader answers.name ++ problemHeader answers.name ++
      problemStubs).countP p = fixed)
    (hpredicate : (predicateStub "").countP p = eachPredicate)
    (haction : (actionStub "").countP p = eachAction) :
    (linesIn (render answers)).countP p =
      fixed + eachPredicate * answers.predicates.length + eachAction * answers.actions.length := by
  have hend : [""].countP p = 0 := List.countP_eq_zero.mpr (by simp [hp.blank])
  rw [render, linesIn_textOf (fun _ => oneLine_of_mem_lines hfree), List.countP_append, hend,
    hp.countP_lines, hfixed, hpredicate, haction, Nat.add_zero]

end Overlooks

/-- A declaration has a quotation mark in it, and a signature has a colon. -/
theorem overlooks_mark {mark : String} (hmark : mark ≠ "") (hquote : '"' ∉ mark.toList)
    (hcolon : ':' ∉ mark.toList) : Overlooks (· == mark) where
  blank := by simpa using Ne.symm hmark
  declaration := by
    intro token
    rw [beq_eq_false_iff_ne]
    rintro rfl
    exact hquote (by simp [typeDeclaration])
  signature := by
    intro token
    rw [beq_eq_false_iff_ne]
    rintro rfl
    exact hcolon (by simp)

/-- Declarations and signatures begin with a space. -/
theorem overlooks_start {start : String} {c : Char} (hstart : start.toList.head? = some c)
    (hc : c ≠ ' ') : Overlooks (fun line => Begins start line) := by
  obtain ⟨rest, hrest⟩ := List.head?_eq_some_iff.mp hstart
  refine ⟨?_, fun token => ?_, fun token => ?_⟩
  · simp [Begins, hrest]
  · simp [Begins, hrest, typeDeclaration, hc]
  · simp [Begins, hrest, hc]

/-- What can be counted in the text of a skeleton with so many types, predicates and actions. -/
structure Counts (text : String) (types predicates actions : Nat) : Prop where
  ended : text.toList.getLast? = some '\n'
  lineFeeds : text.toList.count '\n' = 26 + types +
    (if 0 < predicates then 4 * predicates - 1 else 0) +
    (if 0 < actions then 7 * actions - 1 else 0)
  predicateMarks : (linesIn text).count "    @predicate(...)" = predicates
  actionMarks : (linesIn text).count "    @action(...)" = actions
  classes : (linesIn text).countP (fun line => Begins "class " line) = 2
  imports : (linesIn text).countP (fun line => Begins "from " line) = 2

/-- Whatever stands in the answers, apart from line feeds, the lines of their skeleton can be told
    from how many tokens there are. -/
theorem counts_render {answers : Answers} (hfree : answers.LineFree) :
    Counts (render answers) answers.types.length answers.predicates.length
      answers.actions.length where
  ended := by
    apply getLast?_textOf
    rw [lines_eq]
    exact List.cons_ne_nil _ _
  lineFeeds := by
    rw [render, count_lineFeed_textOf (fun _ => oneLine_of_mem_lines hfree), length_lines]
  predicateMarks := by
    have hfixed : (domainHeader answers.name ++ problemHeader answers.name ++
        problemStubs).countP (· == "    @predicate(...)") = 0 := by
      simp [domainHeader, problemHeader, problemStubs, String.ext_iff]
    have hpredicate : (predicateStub "").countP (· == "    @predicate(...)") = 1 := by decide
    have haction : (actionStub "").countP (· == "    @predicate(...)") = 0 := by decide
    rw [List.count, (overlooks_mark (by decide) (by decide) (by decide)).countP_linesIn_render
      hfree hfixed hpredicate haction]
    omega
  actionMarks := by
    have hfixed : (domainHeader answers.name ++ problemHeader answers.name ++
        problemStubs).countP (· == "    @action(...)") = 0 := by
      simp [domainHeader, problemHeader, problemStubs, String.ext_iff]
    have hpredicate : (predicateStub "").countP (· == "    @action(...)") = 0 := by decide
    have haction : (actionStub "").countP (· == "    @action(...)") = 1 := by decide
    rw [List.count, (overlooks_mark (by decide) (by decide) (by decide)).countP_linesIn_render
      hfree hfixed hpredicate haction]
    omega
  classes := by
    have hfixed : (domainHeader answers.name ++ problemHeader answers.name ++
        problemStubs).countP (fun line => Begins "class " line) = 2 := by
      simp [domainHeader, problemHeader, problemStubs, Begins]
    rw [(overlooks_start rfl (by decide)).countP_linesIn_render hfree hfixed
      (show _ = 0 by decide) (show _ = 0 by decide)]
    omega
  imports := by
    have hfixed : (domainHeader answers.name ++ problemHeader answers.name ++
        problemStubs).countP (fun line => Begins "from " line) = 2 := by
      simp [domainHeader, problemHeader, problemStubs, Begins]
    rw [(overlooks_start rfl (by decide)).countP_linesIn_render hfree hfixed
      (show _ = 0 by decide) (show _ = 0 by decide)]
    omega

end Skeleton

end PlanScaffold
