/-
  PlanScaffold/Proofs/Terminal/Scripts.lean
  =========================================
  **A terminal does what a script does.**

  Answers may be prepared in a script or typed at a terminal, each on a line of its own.  Whatever
  operations are then carried out, in whichever order, the two runs cannot be told apart by
  what they give or keep: at every step as many answers are left in the script as there are
  lines in the stream.  Only where no answer is left does each of the two say so in its own way.

  All of this comes from one property of the operations, `PassesOn`: they take a fault of the
  prompter for their own result and never make up such a fault themselves.
-/
import Mathlib.Data.List.Forall2
import PlanScaffold.Proofs.Requests
import PlanScaffold.Proofs.Terminal.Lines

namespace PlanScaffold

/-! ### Running out of answers -/

/-- The faults of prompters that have no answer left. -/
def Fault.NoAnswer : Fault → Prop
  | .prompt _ => True
  | .io (.inputEnded _) => True
  | _ => False

/-- A result that does not come from a lack of answers. -/
def Answered {α : Type} (result : Except Fault α) : Prop :=
  ∀ fault, result = .error fault → ¬fault.NoAnswer

theorem answered_ok {α : Type} (value : α) : Answered (.ok value : Except Fault α) := by
  intro fault hfault
  cases hfault

theorem answered_error {α : Type} {fault : Fault} (hfault : ¬fault.NoAnswer) :
    Answered (.error fault : Except Fault α) := by
  intro other hother
  cases hother
  exact hfault

namespace Program

variable {α β : Type}

/-- The program ends with the first fault of a prompter, and nowhere else says that there is no
    answer. -/
def PassesOn : Program α → Prop
  | .done result => Answered result
  | .taken _ next => ∀ reply, (next reply).PassesOn
  | .create _ _ next => ∀ reply, Answered reply → (next reply).PassesOn
  | .ask _ next =>
    (∀ fault, next (.error fault) = .done (.error fault)) ∧
      ∀ answer, (next (.ok answer)).PassesOn
  | .note _ next => next.PassesOn

theorem passesOn_bind {first : Program α} {rest : α → Program β} (hfirst : first.PassesOn)
    (hrest : ∀ value, (rest value).PassesOn) : (first >>= rest).PassesOn := by
  induction first with
  | done result =>
    cases result with
    | ok value => exact hrest value
    | error fault => exact answered_error (hfirst fault rfl)
  | taken path next ih =>
    intro reply
    exact ih reply (hfirst reply)
  | create path content next ih =>
    intro reply hreply
    exact ih reply (hfirst reply hreply)
  | ask prompt next ih =>
    obtain ⟨hfault, hanswer⟩ := hfirst
    constructor
    · intro fault
      show (next (.error fault)).bind rest = _
      rw [hfault]
      rfl
    · intro answer
      exact ih _ (hanswer answer)
  | note event next ih => exact ih hfirst

theorem compositional_passesOn : Compositional fun _ program => program.PassesOn where
  pure := answered_ok
  refuse := by
    intro _ fault hrefusal
    apply answered_error
    cases fault with
    | emptyInput | destinationExists => exact id
    | io | prompt | config => exact hrefusal.elim
  bind := passesOn_bind
  ask _ := ⟨fun _ => rfl, answered_ok⟩
  note _ _ := answered_ok ()

theorem passesOn_perform (operation : Operation) :
    (operation.perform : Program Operation.Value).PassesOn :=
  compositional_passesOn.perform operation (fun _ _ => answered_ok) (fun _ _ _ _ => id)
    fun _ _ => answered_ok ()

end Program

/-! ### Typing a script -/

/-- A stream in which these answers are typed, each on a line of its own.  A carriage return
    may stand before the line feed of any line, and does where the answer itself ends with one. -/
inductive Types : List String → Bytes → Prop where
  | nil : Types [] []
  | cons {answer ending : String} {answers : List String} {rest : Bytes}
      (hanswer : '\n' ∉ answer.toList)
      (hending : ending = "\r\n" ∨ ending = "\n" ∧ answer.toList.getLast? ≠ some '\r')
      (hrest : Types answers rest) :
      Types (answer :: answers) (Utf8.encode (answer ++ ending) ++ rest)

theorem cutLine_append_lineFeed {body : Bytes} (hopen : lineFeed ∉ body) (rest : Bytes) :
    cutLine (body ++ lineFeed :: rest) = (body ++ [lineFeed], rest) := by
  induction body with
  | nil => exact cutLine_lineFeed rest
  | cons byte body ih =>
    obtain ⟨hbyte, hbody⟩ := List.ne_and_not_mem_of_not_mem_cons hopen
    rw [List.cons_append, cutLine_cons (Ne.symm hbyte), ih hbody, List.cons_append]

theorem cutLine_encode {line : String} (hline : '\n' ∉ line.toList) (rest : Bytes) :
    cutLine (Utf8.encode (line ++ "\n") ++ rest) = (Utf8.encode (line ++ "\n"), rest) := by
  have hopen : lineFeed ∉ Utf8.encode line := by
    intro hbyte
    exact hline ((Utf8.mem_encode_iff (a := '\n') (by decide)).mp hbyte)
  have hend : Utf8.encode (line ++ "\n") = Utf8.encode line ++ [lineFeed] := by
    rw [Utf8.encode_append]
    rfl
  rw [hend, List.append_assoc]
  exact cutLine_append_lineFeed hopen rest

theorem dropLastChar_append (c : Char) (text : List Char) : dropLastChar c (text ++ [c]) = text := by
  rw [dropLastChar, List.getLast?_concat, if_pos rfl, List.dropLast_concat]

theorem withoutLineEnd_append {answer ending : String}
    (hending : ending = "\r\n" ∨ ending = "\n" ∧ answer.toList.getLast? ≠ some '\r') :
    withoutLineEnd (answer ++ ending) = answer := by
  rw [withoutLineEnd, String.toList_append]
  rcases hending with rfl | ⟨rfl, hlast⟩
  · have hparts : answer.toList ++ "\r\n".toList = (answer.toList ++ ['\r']) ++ ['\n'] := by
      rw [List.append_assoc]
      rfl
    rw [hparts, dropLastChar_append, dropLastChar_append, String.ofList_toList]
  · have hparts : answer.toList ++ "\n".toList = answer.toList ++ ['\n'] := rfl
    rw [hparts, dropLastChar_append, dropLastChar, if_neg hlast, String.ofList_toList]

/-- The first answer of a typed script is what its first line holds. -/
theorem Types.ask {answer : String} {answers : List String} {input : Bytes}
    (htypes : Types (answer :: answers) input) (written prompt : String) :
    ∃ rest, Types answers rest ∧ Prompter.ask (⟨input, written⟩ : Terminal) prompt =
      (.ok answer, (⟨rest, written ++ promptText prompt⟩ : Terminal)) := by
  cases htypes with
  | cons hanswer hending hrest =>
    rename_i ending rest
    refine ⟨rest, hrest, ?_⟩
    have hcut : cutLine (Utf8.encode (answer ++ ending) ++ rest) =
        (Utf8.encode (answer ++ ending), rest) := by
      rcases hending with rfl | ⟨rfl, -⟩
      · have hline : '\n' ∉ (answer ++ "\r").toList := by
          rw [String.toList_append]
          simp [hanswer]
        have hparts : answer ++ "\r\n" = (answer ++ "\r") ++ "\n" := by
          rw [String.append_assoc]
          rfl
        rw [hparts]
        exact cutLine_encode hline rest
      · exact cutLine_encode hanswer rest
    have hline : Utf8.encode (answer ++ ending) ≠ [] := by
      rw [Ne, Utf8.encode_eq_nil_iff, String.append_eq_empty_iff]
      rcases hending with rfl | ⟨rfl, -⟩ <;> simp
    show Terminal.ask _ _ = _
    rw [Terminal.ask, hcut]
    dsimp only
    rw [answerIn, if_neg hline, Utf8.decode?_encode]
    dsimp only
    rw [withoutLineEnd_append hending]

/-! ### Two prompters in step -/

/-- A script and a terminal at which the same prompts were shown, and for which the same answers
    are left. -/
structure InStep (script : Script) (terminal : Terminal) : Prop where
  unused : Types script.answers terminal.input
  written : terminal.written = String.join (script.asked.map promptText)

/-- The same result, unless no answer was left: then each prompter says so in its own way. -/
inductive SameResult {α : Type} : Except Fault α → Except Fault α → Prop where
  | answered {result : Except Fault α} (hanswered : Answered result) : SameResult result result
  | noAnswer (prompt : String) :
      SameResult (.error (.prompt ("No scripted answer for '" ++ prompt ++ "'")))
        (.error (.io (.inputEnded prompt)))

theorem InStep.written_ask {script : Script} {terminal : Terminal} (hstep : InStep script terminal)
    (prompt : String) :
    terminal.written ++ promptText prompt =
      String.join ((script.asked ++ [prompt]).map promptText) := by
  rw [hstep.written, List.map_append, String.join_append]
  simp [String.join]

/-- Asked for an answer, both give the same one, or both have none left. -/
theorem InStep.ask {script : Script} {terminal : Terminal} (hstep : InStep script terminal)
    (prompt : String) :
    InStep (Prompter.ask script prompt).2 (Prompter.ask terminal prompt).2 ∧
      ((∃ answer, (Prompter.ask script prompt).1 = .ok answer ∧
          (Prompter.ask terminal prompt).1 = .ok answer) ∨
        (Prompter.ask script prompt).2.answers = [] ∧
          (Prompter.ask script prompt).1 =
            .error (.prompt ("No scripted answer for '" ++ prompt ++ "'")) ∧
          (Prompter.ask terminal prompt).1 = .error (.io (.inputEnded prompt))) := by
  have hwritten := hstep.written_ask prompt
  have htypes := hstep.unused
  obtain ⟨answers, asked⟩ := script
  obtain ⟨input, written⟩ := terminal
  dsimp only at hwritten htypes
  cases answers with
  | nil =>
    cases htypes
    exact ⟨⟨.nil, hwritten⟩, .inr ⟨rfl, rfl, rfl⟩⟩
  | cons answer answers =>
    obtain ⟨rest, hrest, hask⟩ := htypes.ask written prompt
    rw [hask]
    exact ⟨⟨hrest, hwritten⟩, .inl ⟨answer, rfl, rfl⟩⟩

/-! ### Operations -/

/-- What comes of the same thing done with a script and at a terminal. -/
structure EndsAlike {α : Type} (scripted : Except Fault α × Session MemoryStore Script)
    (typed : Except Fault α × Session MemoryStore Terminal) : Prop where
  result : SameResult scripted.1 typed.1
  spent : ∀ reason, scripted.1 = .error (.prompt reason) → scripted.2.prompter.answers = []
  store : scripted.2.store = typed.2.store
  prompters : InStep scripted.2.prompter typed.2.prompter

theorem answered_create (store : MemoryStore) (path : Path) (content : String) :
    Answered (SkeletonStore.create store path content).1 := by
  show Answered (store.create path content).1
  unfold MemoryStore.create
  split
  · exact answered_error id
  · exact answered_ok ()

theorem effect_endsAlike {α : Type} {program : Program α} (hpasses : program.PassesOn)
    (store : MemoryStore) {script : Script} {terminal : Terminal}
    (hstep : InStep script terminal) :
    SameResult (program.effect store script).1 (program.effect store terminal).1 ∧
      (∀ reason, (program.effect store script).1 = .error (.prompt reason) →
        (program.effect store script).2.2.answers = []) ∧
      (program.effect store script).2.1 = (program.effect store terminal).2.1 ∧
      InStep (program.effect store script).2.2 (program.effect store terminal).2.2 := by
  induction program generalizing store script terminal with
  | done result =>
    refine ⟨.answered hpasses, ?_, rfl, hstep⟩
    intro reason hreason
    exact (hpasses _ hreason trivial).elim
  | taken path next ih => exact ih _ (hpasses _) store hstep
  | create path content next ih =>
    exact ih _ (hpasses _ (answered_create store path content)) _ hstep
  | ask prompt next ih =>
    obtain ⟨hafter, ⟨answer, hscript, hterminal⟩ | ⟨hspent, hscript, hterminal⟩⟩ :=
      hstep.ask prompt
    · have hrest := ih _ (hpasses.2 answer) store hafter
      simp only [Program.effect, hscript, hterminal]
      exact hrest
    · simp only [Program.effect, hscript, hterminal, hpasses.1]
      exact ⟨.noAnswer prompt, fun _ _ => hspent, trivial, hafter⟩
  | note event next ih => exact ih hpasses store hstep

theorem within_perform_endsAlike {scripted : Session MemoryStore Script}
    {typed : Session MemoryStore Terminal} (hstore : scripted.store = typed.store)
    (hstep : InStep scripted.prompter typed.prompter) (operation : Operation) :
    EndsAlike (scripted.within operation.perform) (typed.within operation.perform) := by
  obtain ⟨log, hscripted⟩ := Session.within_runIn (operation.perform : Program _) scripted
  obtain ⟨log', htyped⟩ := Session.within_runIn (operation.perform : Program _) typed
  obtain ⟨hresult, hspent, hkept, hprompters⟩ :=
    effect_endsAlike (Program.passesOn_perform operation) scripted.store hstep
  rw [Operation.runIn_perform] at hscripted htyped
  rw [hscripted, htyped, ← hstore]
  exact ⟨hresult, hspent, hkept, hprompters⟩

theorem history_endsAlike {scripted : Session MemoryStore Script}
    {typed : Session MemoryStore Terminal} (hstore : scripted.store = typed.store)
    (hstep : InStep scripted.prompter typed.prompter) (operations : List Operation) :
    List.Forall₂ EndsAlike (scripted.history operations) (typed.history operations) := by
  induction operations generalizing scripted typed with
  | nil => exact .nil
  | cons operation operations ih =>
    have hfirst := within_perform_endsAlike hstore hstep operation
    exact .cons hfirst (ih hfirst.store hfirst.prompters)

/-- **Typing answers is as good as preparing them.**  With a script, or with a stream in which its
    answers are typed, every operation of any sequence gives the same result and leaves the same
    store, and the same prompts have been shown. -/
theorem scripted_typed_alike {answers : List String} {input : Bytes}
    (htypes : Types answers input) (store : MemoryStore) (threshold : Threshold)
    (operations : List Operation) :
    List.Forall₂ EndsAlike
      (Session.history { store, threshold, prompter := ({ answers } : Script) } operations)
      (Session.history { store, threshold, prompter := ({ input } : Terminal) } operations) :=
  history_endsAlike rfl ⟨htypes, rfl⟩ operations

/-- A blank name keeps the answers behind it for what is asked next. -/
theorem scripted_typed_alike_blank :
    Types [" ", "at\r"] (Utf8.encode " \nat\r\r\n") ∧
    List.Forall₂ EndsAlike
      (Session.history { store := {}, prompter := ({ answers := [" ", "at\r"] } : Script) }
        [.generate ⟨"a.py"⟩ .collapse, .ask "Name", .generate ⟨"a.py"⟩ .preserve])
      (Session.history
        { store := {}, prompter := ({ input := Utf8.encode " \nat\r\r\n" } : Terminal) }
        [.generate ⟨"a.py"⟩ .collapse, .ask "Name", .generate ⟨"a.py"⟩ .preserve]) := by
  have hlast : Types ["at\r"] (Utf8.encode ("at\r" ++ "\r\n") ++ []) :=
    .cons (by decide) (.inl rfl) .nil
  have htypes : Types [" ", "at\r"] (Utf8.encode (" " ++ "\n") ++ Utf8.encode "at\r\r\n") :=
    .cons (by decide) (.inr ⟨rfl, by decide⟩) hlast
  exact ⟨htypes, scripted_typed_alike htypes {} .standard _⟩

end PlanScaffold
