/-
  PlanScaffold/Proofs/Terminal/Lines.lean
  =======================================
  **A terminal answers line by line.**

  The terminal cuts one line off its input whenever it is asked.  Here the input is cut into all
  its lines at once (`linesOf`), so that the answer to each prompt can be told by its number: it is
  what the line with the same number holds (`reply?`), and whatever the answers were, the next
  prompt gets the next line (`ask_after_of_some`, `ask_after_of_none`).
-/
import PlanScaffold.Prompter

namespace PlanScaffold

/-! ### Lines -/

/-- The lines of an input.  Each of them ends with its line feed, which only the last one may
    lack. -/
def linesOf : Bytes → List Bytes
  | [] => []
  | byte :: rest =>
    if byte = lineFeed then [byte] :: linesOf rest
    else
      match linesOf rest with
      | [] => [[byte]]
      | line :: lines => (byte :: line) :: lines

theorem cutLine_lineFeed (rest : Bytes) : cutLine (lineFeed :: rest) = ([lineFeed], rest) := by
  simp [cutLine]

theorem cutLine_cons {byte : UInt8} (hbyte : byte ≠ lineFeed) (rest : Bytes) :
    cutLine (byte :: rest) = (byte :: (cutLine rest).1, (cutLine rest).2) := by
  have hgoes : (byte != lineFeed) = true := by simpa using hbyte
  unfold cutLine
  rw [List.takeWhile_cons_of_pos (p := (· != lineFeed)) hgoes,
    List.dropWhile_cons_of_pos (p := (· != lineFeed)) hgoes]
  cases rest.dropWhile (· != lineFeed) <;> rfl

/-- The line that is cut off is the first one, and the others remain. -/
theorem linesOf_cutLine {input : Bytes} (hinput : input ≠ []) :
    linesOf input = (cutLine input).1 :: linesOf (cutLine input).2 := by
  induction input with
  | nil => exact (hinput rfl).elim
  | cons byte rest ih =>
    by_cases hbyte : byte = lineFeed
    · subst hbyte
      rw [cutLine_lineFeed, linesOf, if_pos rfl]
    · rw [cutLine_cons hbyte, linesOf, if_neg hbyte]
      cases rest with
      | nil => rfl
      | cons next rest => rw [ih (List.cons_ne_nil next rest)]

theorem cutLine_fst_ne_nil {input : Bytes} (hinput : input ≠ []) : (cutLine input).1 ≠ [] := by
  cases input with
  | nil => exact (hinput rfl).elim
  | cons byte rest =>
    by_cases hbyte : byte = lineFeed
    · subst hbyte
      simp [cutLine_lineFeed]
    · simp [cutLine_cons hbyte]

/-- What is left of an input behind its first lines. -/
def dropLines : Nat → Bytes → Bytes
  | 0, input => input
  | count + 1, input => dropLines count (cutLine input).2

theorem linesOf_dropLines (count : Nat) (input : Bytes) :
    linesOf (dropLines count input) = (linesOf input).drop count := by
  induction count generalizing input with
  | zero => rfl
  | succ count ih =>
    by_cases hinput : input = []
    · subst hinput
      rw [dropLines]
      show linesOf (dropLines count []) = []
      rw [ih []]
      exact List.drop_nil
    · rw [dropLines, ih, linesOf_cutLine hinput, List.drop_succ_cons]

theorem head?_linesOf_dropLines (count : Nat) (input : Bytes) :
    (linesOf (dropLines count input)).head? = (linesOf input)[count]? := by
  rw [linesOf_dropLines, List.head?_drop]

theorem dropLines_succ (count : Nat) (input : Bytes) :
    dropLines (count + 1) input = (cutLine (dropLines count input)).2 := by
  induction count generalizing input with
  | zero => rfl
  | succ count ih => exact ih (cutLine input).2

theorem flatten_linesOf (input : Bytes) : (linesOf input).flatten = input := by
  induction input with
  | nil => rfl
  | cons byte rest ih =>
    rw [linesOf]
    split
    · rw [List.flatten_cons, ih]
      rfl
    · cases hlines : linesOf rest with
      | nil =>
        rw [hlines] at ih
        rw [← ih]
        rfl
      | cons line lines =>
        rw [hlines, List.flatten_cons] at ih
        rw [← ih]
        rfl

theorem dropLines_eq_flatten (count : Nat) (input : Bytes) :
    dropLines count input = ((linesOf input).drop count).flatten := by
  rw [← linesOf_dropLines, flatten_linesOf]

/-! ### Replies -/

/-- The answer that an input holds for the prompt with this number, counted from nought. -/
def reply? (input : Bytes) (number : Nat) : Option String :=
  ((linesOf input)[number]?.bind Utf8.decode?).map withoutLineEnd

theorem reply?_eq (input : Bytes) (number : Nat) :
    reply? input number =
      if dropLines number input = [] then none
      else (Utf8.decode? (cutLine (dropLines number input)).1).map withoutLineEnd := by
  rw [reply?, ← head?_linesOf_dropLines]
  by_cases hrest : dropLines number input = []
  · rw [if_pos hrest, hrest]
    rfl
  · rw [if_neg hrest, linesOf_cutLine hrest]
    rfl

theorem answerIn_of_some {input : Bytes} {number : Nat} {answer : String}
    (hreply : reply? input number = some answer) (prompt : String) :
    answerIn prompt (cutLine (dropLines number input)).1 = .ok answer := by
  rw [reply?_eq] at hreply
  by_cases hrest : dropLines number input = []
  · rw [if_pos hrest] at hreply
    cases hreply
  · rw [if_neg hrest] at hreply
    obtain ⟨text, htext, rfl⟩ := Option.map_eq_some_iff.mp hreply
    rw [answerIn, if_neg (cutLine_fst_ne_nil hrest), htext]

theorem answerIn_of_none {input : Bytes} {number : Nat} (hreply : reply? input number = none)
    (prompt : String) :
    ∃ fault, answerIn prompt (cutLine (dropLines number input)).1 = .error fault := by
  rw [reply?_eq] at hreply
  by_cases hrest : dropLines number input = []
  · rw [hrest]
    exact ⟨_, rfl⟩
  · rw [if_neg hrest, Option.map_eq_none_iff] at hreply
    rw [answerIn, if_neg (cutLine_fst_ne_nil hrest), hreply]
    exact ⟨_, rfl⟩

/-! ### The terminal -/

namespace Terminal

def after (terminal : Terminal) (asked : List String) : Terminal :=
  ⟨dropLines asked.length terminal.input,
    terminal.written ++ String.join (asked.map promptText)⟩

@[simp] theorem after_nil (terminal : Terminal) : terminal.after [] = terminal := by
  simp [after, dropLines]

theorem ask_after (terminal : Terminal) (asked : List String) (prompt : String) :
    (terminal.after asked).ask prompt =
      (answerIn prompt (cutLine (dropLines asked.length terminal.input)).1,
        terminal.after (asked ++ [prompt])) := by
  have hwritten : String.join ((asked ++ [prompt]).map promptText) =
      String.join (asked.map promptText) ++ promptText prompt := by
    simp [String.join_append]
  simp only [ask, after, List.length_append, List.length_singleton, dropLines_succ, hwritten,
    String.append_assoc]

/-- A prompt gets the answer with its number. -/
theorem ask_after_of_some {terminal : Terminal} (asked : List String) {answer : String}
    (hreply : reply? terminal.input asked.length = some answer) (prompt : String) :
    Prompter.ask (terminal.after asked) prompt =
      (.ok answer, terminal.after (asked ++ [prompt])) := by
  show (terminal.after asked).ask prompt = _
  rw [ask_after, answerIn_of_some hreply]

theorem ask_after_of_none {terminal : Terminal} (asked : List String)
    (hreply : reply? terminal.input asked.length = none) (prompt : String) :
    ∃ fault, Prompter.ask (terminal.after asked) prompt =
      (.error fault, terminal.after (asked ++ [prompt])) := by
  obtain ⟨fault, hfault⟩ := answerIn_of_none hreply prompt
  refine ⟨fault, ?_⟩
  show (terminal.after asked).ask prompt = _
  rw [ask_after, hfault]

end Terminal

end PlanScaffold
