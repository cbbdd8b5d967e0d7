/-
  PlanScaffold/Proofs/Terminal/Runs.lean
  ======================================
  **Any number of prompts at one terminal.**

  The bytes of a stream are cut into lines in one way only (`cutsInto_iff`).  When prompts are asked
  at a terminal one after another, each of them takes the line with its own number, whether it
  makes an answer of that line or fails.  So what comes of a prompt is settled by that line alone,
  and a line that is no text harms no other prompt.
-/
import PlanScaffold.Proofs.Terminal.Lines

namespace PlanScaffold

/-! ### Lines -/

/-- A stream and its lines.  Each line ends with its line feed, which only the last one may lack
    if there is something in it. -/
inductive CutsInto : Bytes → List Bytes → Prop where
  | nil : CutsInto [] []
  | last {body : Bytes} (hbody : body ≠ []) (hopen : lineFeed ∉ body) : CutsInto body [body]
  | line {body rest : Bytes} {lines : List Bytes} (hopen : lineFeed ∉ body)
      (hrest : CutsInto rest lines) :
      CutsInto (body ++ lineFeed :: rest) ((body ++ [lineFeed]) :: lines)

theorem linesOf_append_lineFeed {body : Bytes} (hopen : lineFeed ∉ body) (rest : Bytes) :
    linesOf (body ++ lineFeed :: rest) = (body ++ [lineFeed]) :: linesOf rest := by
  induction body with
  | nil => rw [List.nil_append, linesOf, if_pos rfl, List.nil_append]
  | cons byte body ih =>
    obtain ⟨hbyte, hbody⟩ := List.ne_and_not_mem_of_not_mem_cons hopen
    rw [List.cons_append, linesOf, if_neg (Ne.symm hbyte), ih hbody, List.cons_append]

theorem linesOf_of_notMem {body : Bytes} (hbody : body ≠ []) (hopen : lineFeed ∉ body) :
    linesOf body = [body] := by
  induction body with
  | nil => exact (hbody rfl).elim
  | cons byte body ih =>
    obtain ⟨hbyte, hrest⟩ := List.ne_and_not_mem_of_not_mem_cons hopen
    rw [linesOf, if_neg (Ne.symm hbyte)]
    by_cases hend : body = []
    · rw [hend]
      rfl
    · rw [ih hend hrest]

theorem cutsInto_linesOf (input : Bytes) : CutsInto input (linesOf input) := by
  induction input with
  | nil => exact .nil
  | cons byte rest ih =>
    rw [linesOf]
    by_cases hbyte : byte = lineFeed
    · rw [if_pos hbyte, hbyte]
      exact .line (List.not_mem_nil) ih
    · rw [if_neg hbyte]
      have hcons : ∀ {body : Bytes}, lineFeed ∉ body → lineFeed ∉ byte :: body := by
        intro body hopen
        exact List.not_mem_cons_of_ne_of_not_mem (Ne.symm hbyte) hopen
      generalize linesOf rest = lines at ih
      -- the byte joins the first line of the rest
      cases ih with
      | nil => exact .last (List.cons_ne_nil byte []) (hcons List.not_mem_nil)
      | last hbody hopen => exact .last (List.cons_ne_nil byte _) (hcons hopen)
      | line hopen hrest => exact .line (hcons hopen) hrest

/-- There is one way to cut a stream into lines. -/
theorem cutsInto_iff {input : Bytes} {lines : List Bytes} :
    CutsInto input lines ↔ lines = linesOf input := by
  constructor
  · intro hcuts
    induction hcuts with
    | nil => rfl
    | last hbody hopen => exact (linesOf_of_notMem hbody hopen).symm
    | line hopen hrest ih => rw [linesOf_append_lineFeed hopen, ih]
  · rintro rfl
    exact cutsInto_linesOf input

/-- No byte of a line but its last one is a line feed. -/
theorem lineFeed_notMem_dropLast {input line : Bytes} {lines : List Bytes}
    (hcuts : CutsInto input lines) (hline : line ∈ lines) : lineFeed ∉ line.dropLast := by
  induction hcuts with
  | nil => cases hline
  | last hbody hopen =>
    rw [List.mem_singleton.mp hline]
    intro hmem
    exact hopen (List.dropLast_subset _ hmem)
  | line hopen hrest ih =>
    rcases List.mem_cons.mp hline with hfirst | hlater
    · rw [hfirst, List.dropLast_concat]
      exact hopen
    · exact ih hlater

theorem ne_nil_of_mem_linesOf {input line : Bytes} (hline : line ∈ linesOf input) : line ≠ [] := by
  have hcuts := cutsInto_linesOf input
  generalize linesOf input = lines at hcuts hline
  induction hcuts with
  | nil => cases hline
  | last hbody hopen =>
    rw [List.mem_singleton.mp hline]
    exact hbody
  | line hopen hrest ih =>
    rcases List.mem_cons.mp hline with hfirst | hlater
    · rw [hfirst]
      exact List.append_ne_nil_of_right_ne_nil _ (List.cons_ne_nil _ _)
    · exact ih hlater

/-! ### Replies -/

/-- A text and what is left of it when one character is taken off its end, if that is there. -/
def Sheds (c : Char) (text rest : List Char) : Prop :=
  text = rest ++ [c] ∨ text.getLast? ≠ some c ∧ rest = text

theorem sheds_dropLastChar (c : Char) (text : List Char) : Sheds c text (dropLastChar c text) := by
  unfold dropLastChar
  by_cases hlast : text.getLast? = some c
  · rw [if_pos hlast]
    left
    obtain ⟨rest, rfl⟩ := List.getLast?_eq_some_iff.mp hlast
    rw [List.dropLast_concat]
  · rw [if_neg hlast]
    exact .inr ⟨hlast, rfl⟩

theorem Sheds.subset {c : Char} {text rest : List Char} (hsheds : Sheds c text rest) :
    rest ⊆ text := by
  rcases hsheds with htext | ⟨-, hrest⟩
  · rw [htext]
    exact List.subset_append_left rest [c]
  · rw [hrest]
    exact List.Subset.refl text

/-- What a prompt gets for a line, or for no line at all: the text of the line without its line
    feed, and then without one carriage return, or a fault. -/
inductive Reply (prompt : String) : Option Bytes → Except Fault String → Prop where
  | answer {text body answer : List Char} (hfeed : Sheds '\n' text body)
      (hreturn : Sheds '\r' body answer) :
      Reply prompt (some (Utf8.encode (String.ofList text))) (.ok (String.ofList answer))
  | noText {line : Bytes} (hline : ∀ text, line ≠ Utf8.encode text) :
      Reply prompt (some line) (.error (.io .notUtf8))
  | ended : Reply prompt none (.error (.io (.inputEnded prompt)))

theorem reply_answerIn (prompt : String) {line : Bytes} (hline : line ≠ []) :
    Reply prompt (some line) (answerIn prompt line) := by
  rw [answerIn, if_neg hline]
  cases htext : Utf8.decode? line with
  | none =>
    apply Reply.noText
    intro text hsame
    rw [Utf8.decode?_eq_some_iff.mpr hsame] at htext
    cases htext
  | some text =>
    rw [Utf8.decode?_eq_some_iff.mp htext, ← String.ofList_toList (s := text)]
    dsimp only
    rw [withoutLineEnd, String.toList_ofList]
    exact .answer (sheds_dropLastChar '\n' text.toList) (sheds_dropLastChar '\r' _)

theorem newline_notMem_dropLast {text : List Char}
    (hline : lineFeed ∉ (Utf8.encode (String.ofList text)).dropLast) : '\n' ∉ text.dropLast := by
  rcases List.eq_nil_or_concat text with rfl | ⟨before, last, rfl⟩
  · exact List.not_mem_nil
  · intro hmem
    rw [List.concat_eq_append, List.dropLast_concat] at hmem
    have hbyte : lineFeed ∈ Utf8.encode (String.ofList before) :=
      (Utf8.mem_encode_iff (a := '\n') (by decide)).mpr (by rwa [String.toList_ofList])
    have hlast : Utf8.encode (String.ofList [last]) ≠ [] := by
      rw [Ne, Utf8.encode_eq_nil_iff, String.ofList_eq_empty_iff]
      exact List.cons_ne_nil last []
    rw [List.concat_eq_append, String.ofList_append, Utf8.encode_append,
      List.dropLast_append_of_ne_nil hlast] at hline
    exact hline (List.mem_append_left _ hbyte)

theorem newline_notMem_of_reply {prompt answer : String} {line : Bytes}
    (hline : lineFeed ∉ line.dropLast) (hreply : Reply prompt (some line) (.ok answer)) :
    '\n' ∉ answer.toList := by
  cases hreply with
  | answer hfeed hreturn =>
    rename_i text body answer
    have htext : '\n' ∉ text.dropLast := newline_notMem_dropLast hline
    have hbody : '\n' ∉ body := by
      rcases hfeed with rfl | ⟨hlast, rfl⟩
      · rwa [List.dropLast_concat] at htext
      · intro hmem
        rcases List.eq_nil_or_concat body with rfl | ⟨before, last, rfl⟩
        · cases hmem
        · rw [List.concat_eq_append] at htext hlast hmem
          rw [List.dropLast_concat] at htext
          rw [List.getLast?_concat] at hlast
          rcases List.mem_append.mp hmem with hbefore | hmem
          · exact htext hbefore
          · rw [List.mem_singleton.mp hmem] at hlast
            exact hlast rfl
    rw [String.toList_ofList]
    intro hmem
    exact hbody (hreturn.subset hmem)

/-! ### Prompts one after another -/

/-- Asks prompts in turn, whatever comes of each: the results, each with the prompter after it. -/
def askAll {π : Type} [Prompter π] (prompter : π) : List String → List (Except Fault String × π)
  | [] => []
  | prompt :: rest =>
    Prompter.ask prompter prompt :: askAll (Prompter.ask prompter prompt).2 rest

theorem length_askAll {π : Type} [Prompter π] (prompter : π) (prompts : List String) :
    (askAll prompter prompts).length = prompts.length := by
  induction prompts generalizing prompter with
  | nil => rfl
  | cons prompt rest ih => rw [askAll, List.length_cons, List.length_cons, ih]

namespace Terminal

theorem askAll_after (terminal : Terminal) (asked prompts : List String) (number : Nat) :
    (askAll (terminal.after asked) prompts)[number]? = prompts[number]?.map fun prompt =>
      (answerIn prompt (cutLine (dropLines (asked.length + number) terminal.input)).1,
        terminal.after (asked ++ prompts.take (number + 1))) := by
  induction prompts generalizing asked number with
  | nil => rfl
  | cons prompt rest ih =>
    have hask : Prompter.ask (terminal.after asked) prompt =
        (answerIn prompt (cutLine (dropLines asked.length terminal.input)).1,
          terminal.after (asked ++ [prompt])) := terminal.ask_after asked prompt
    rw [askAll, hask]
    cases number with
    | zero => rfl
    | succ number =>
      rw [List.getElem?_cons_succ, List.getElem?_cons_succ, ih, List.length_append,
        List.length_singleton, Nat.add_assoc, Nat.add_comm 1 number]
      simp only [List.append_assoc, List.singleton_append, List.take_succ_cons]

/-- A prompt among others at a terminal whose stream has these lines. -/
structure Asked (terminal : Terminal) (lines : List Bytes) (prompts : List String) (number : Nat)
    (prompt : String) (result : Except Fault String) (after : Terminal) : Prop where
  /-- It gets what is in the line with its number. -/
  reply : Reply prompt lines[number]? result
  oneLine : ∀ answer, result = .ok answer → '\n' ∉ answer.toList
  /-- All lines but those of this prompt and the ones before it are still to be read. -/
  unread : after.input = (lines.drop (number + 1)).flatten
  written : after.written =
    terminal.written ++ String.join ((prompts.take (number + 1)).map fun shown => shown ++ ": ")
  /-- No other line has a part in the result. -/
  alone : ∀ (other : Terminal) (cut : List Bytes), CutsInto other.input cut →
    cut[number]? = lines[number]? → (askAll other prompts)[number]?.map Prod.fst = some result

theorem fst_cutLine_dropLines (number : Nat) (input : Bytes) :
    (cutLine (dropLines number input)).1 = (linesOf input)[number]?.getD [] := by
  rw [← head?_linesOf_dropLines]
  by_cases hrest : dropLines number input = []
  · rw [hrest]
    rfl
  · rw [linesOf_cutLine hrest]
    rfl

theorem askAll_getElem? (terminal : Terminal) (prompts : List String) (number : Nat) :
    (askAll terminal prompts)[number]? = prompts[number]?.map fun prompt =>
      (answerIn prompt ((linesOf terminal.input)[number]?.getD []),
        terminal.after (prompts.take (number + 1))) := by
  have hrun := terminal.askAll_after [] prompts number
  rw [after_nil] at hrun
  simpa only [List.length_nil, Nat.zero_add, List.nil_append, fst_cutLine_dropLines] using hrun

/-- **A terminal goes line by line.**  Its stream is cut into lines in one way, and whatever comes
    of the prompts, each of them gets what is in the line with its number, reads that line and
    nothing else, and is written once. -/
theorem askAll_line_by_line (terminal : Terminal) (prompts : List String) :
    ∃ lines : List Bytes, (∀ cut, CutsInto terminal.input cut ↔ cut = lines) ∧
      (askAll terminal prompts).length = prompts.length ∧
      ∀ number prompt, prompts[number]? = some prompt →
        ∃ result after, (askAll terminal prompts)[number]? = some (result, after) ∧
          Asked terminal lines prompts number prompt result after := by
  refine ⟨linesOf terminal.input, fun cut => cutsInto_iff, length_askAll terminal prompts, ?_⟩
  intro number prompt hprompt
  refine ⟨_, _, by rw [askAll_getElem?, hprompt]; rfl, ?_⟩
  have hreply : Reply prompt (linesOf terminal.input)[number]?
      (answerIn prompt ((linesOf terminal.input)[number]?.getD [])) := by
    cases hline : (linesOf terminal.input)[number]? with
    | none => exact .ended
    | some line => exact reply_answerIn prompt (ne_nil_of_mem_linesOf (List.mem_of_getElem? hline))
  refine ⟨hreply, ?_, ?_, ?_, ?_⟩
  · intro answer hanswer
    rw [hanswer] at hreply
    cases hline : (linesOf terminal.input)[number]? with
    | none =>
      rw [hline] at hreply
      cases hreply
    | some line =>
      rw [hline] at hreply
      exact newline_notMem_of_reply
        (lineFeed_notMem_dropLast (cutsInto_linesOf _) (List.mem_of_getElem? hline)) hreply
  · have hnumber : number < prompts.length := (List.getElem?_eq_some_iff.mp hprompt).1
    show dropLines (prompts.take (number + 1)).length terminal.input = _
    rw [List.length_take_of_le hnumber, dropLines_eq_flatten]
  · rfl
  · intro other cut hcuts hsame
    rw [cutsInto_iff] at hcuts
    rw [askAll_getElem?, hprompt, ← hcuts, hsame]
    rfl

/-- A line that is no text fails its own prompt only, and the last line needs no line feed. -/
example :
    (askAll ({ input := Utf8.encode "é\r\n" ++ [0xFF, lineFeed] ++ Utf8.encode "\r" } : Terminal)
        ["Name", "Types", "Predicates", "Actions"]).map Prod.fst =
      [.ok "é", .error (.io .notUtf8), .ok "", .error (.io (.inputEnded "Actions"))] := by
  rfl

end Terminal

end PlanScaffold
