/-
  PlanScaffold/Proofs/SuffixWarning.lean
  ======================================
  **The warning about the suffix of a destination.**

  Whether the generator warns depends on the file name alone: it does so unless the name ends in
  `.py` and has something before that (`isPythonModule_iff`).  A file whose whole name is `.py` is
  warned about, although its name does end so.

  The warning comes once, right after the destination was found to be free, and so before anything
  is asked; nothing that the generator itself reports later is a warning (`Program.Call.IsQuiet`).
  Without it, all else is the same.
-/
import PlanScaffold.Proofs.Generate

namespace PlanScaffold

/-! ### Names that end in `.py` -/

/-- The name ends with these characters. -/
def EndsInPy (name : String) : Prop := ['.', 'p', 'y'] <:+ name.toList

instance (name : String) : Decidable (EndsInPy name) :=
  inferInstanceAs (Decidable (['.', 'p', 'y'] <:+ name.toList))

/-- The name ends in `.py` if and only if, backwards, it begins so. -/
theorem endsInPy_iff {name : String} :
    EndsInPy name ↔ ∃ rest, name.toList.reverse = 'y' :: 'p' :: '.' :: rest := by
  constructor
  · rintro ⟨before, hbefore⟩
    exact ⟨before.reverse, by simp [← hbefore]⟩
  · rintro ⟨rest, hrest⟩
    exact ⟨rest.reverse, by simpa using (congrArg List.reverse hrest).symm⟩

/-- Backwards, a name with the extension `py` begins with these three characters, and goes on. -/
theorem extension?_eq_py_iff_reverse {path : Path} {name : String}
    (hname : path.fileName? = some name) :
    path.extension? = some "py" ↔
      ∃ c rest, name.toList.reverse = 'y' :: 'p' :: '.' :: c :: rest := by
  rw [Path.extension?, hname]
  simp only [bind, Option.bind]
  generalize name.toList.reverse = reversed
  constructor
  · intro hextension
    split at hextension
    · next point c rest hbehind =>
      have hparts := List.takeWhile_append_dropWhile (p := (· != '.')) (l := reversed)
      have hpoint := List.head?_dropWhile_not (· != '.') reversed
      have hbefore : (reversed.takeWhile (· != '.')).reverse = ['p', 'y'] :=
        String.ofList_injective (Option.some.inj hextension)
      rw [List.reverse_eq_iff] at hbefore
      rw [hbefore, hbehind] at hparts
      rw [hbehind] at hpoint
      have hpoint : point = '.' := by simpa using hpoint
      exact ⟨c, rest, by rw [← hparts, hpoint]; rfl⟩
    · cases hextension
  · rintro ⟨c, rest, rfl⟩
    rfl

theorem isPythonModule_iff {path : Path} {name : String} (hname : path.fileName? = some name) :
    path.isPythonModule = true ↔ EndsInPy name ∧ name ≠ ".py" := by
  have hwhole : ∀ rest, name.toList.reverse = 'y' :: 'p' :: '.' :: rest →
      (name = ".py" ↔ rest = []) := by
    intro rest hrest
    rw [← String.toList_inj, ← List.reverse_inj, hrest]
    simp
  rw [Path.isPythonModule, beq_iff_eq, extension?_eq_py_iff_reverse hname, endsInPy_iff]
  constructor
  · rintro ⟨c, rest, hreverse⟩
    refine ⟨⟨_, hreverse⟩, ?_⟩
    rw [Ne, hwhole _ hreverse]
    exact List.cons_ne_nil c rest
  · rintro ⟨⟨rest, hreverse⟩, hother⟩
    rw [Ne, hwhole _ hreverse] at hother
    obtain ⟨c, rest, rfl⟩ := List.exists_cons_of_ne_nil hother
    exact ⟨c, rest, hreverse⟩

/-! ### Nothing else is a warning -/

/-- The call reports no warning. -/
def Program.Call.IsQuiet : Call → Prop
  | .note event => event.level ≠ .warn
  | .taken _ | .create _ _ | .ask _ => True

theorem isQuiet_describe (destination : Path) (policy : EmptyTokens) :
    (collectAnswers policy >>= keep destination).Makes Program.Call.IsQuiet :=
  (Program.compositional_makes (fun _ => trivial) fun _ hquiet => hquiet).describe
    (fun _ => ⟨trivial, fun _ => trivial⟩) policy

/-! ### The generator with its warning and without -/

/-- What the generator would be without its warning. -/
def generateUnwarned (destination : Path) (policy : EmptyTokens) : Program Outcome := do
  ensureAvailable destination
  keep destination (← collectAnswers policy)

section Generating

variable {σ π : Type} [SkeletonStore σ] [Prompter π] {destination : Path} {store : σ}

theorem generateUnwarned_eq (destination : Path) (policy : EmptyTokens) :
    generateUnwarned destination policy =
      .taken destination fun
        | true => .done (.error (.destinationExists destination))
        | false => collectAnswers policy >>= keep destination := by
  show Program.taken destination _ = _
  congr 1
  funext reply
  cases reply <;> rfl

theorem effect_generateUnwarned (destination : Path) (policy : EmptyTokens) (store : σ)
    (prompter : π) :
    (generateUnwarned destination policy).effect store prompter =
      (generate destination policy : Program Outcome).effect store prompter := by
  rw [generateUnwarned_eq, generate_eq, Program.effect, Program.effect]
  cases SkeletonStore.holds store destination with
  | true => rfl
  | false => cases destination.isPythonModule <;> rfl

theorem calls_generate_of_holds (htaken : SkeletonStore.holds store destination = true)
    (policy : EmptyTokens) (prompter : π) :
    (generate destination policy : Program Outcome).calls store prompter = [.taken destination] := by
  rw [generate_eq, Program.calls, htaken]
  rfl

theorem calls_generate_of_free (hfree : SkeletonStore.holds store destination = false)
    (policy : EmptyTokens) (prompter : π) :
    (generate destination policy : Program Outcome).calls store prompter =
      .taken destination ::
        ((if destination.isPythonModule then [] else [.note (.noPythonSuffix destination)]) ++
          (collectAnswers policy >>= keep destination).calls store prompter) := by
  rw [generate_eq, Program.calls, hfree]
  cases destination.isPythonModule <;> rfl

theorem calls_generateUnwarned_of_free (hfree : SkeletonStore.holds store destination = false)
    (policy : EmptyTokens) (prompter : π) :
    (generateUnwarned destination policy).calls store prompter =
      .taken destination :: (collectAnswers policy >>= keep destination).calls store prompter := by
  rw [generateUnwarned_eq, Program.calls, hfree]

theorem events_generate_of_holds (htaken : SkeletonStore.holds store destination = true)
    (policy : EmptyTokens) (prompter : π) :
    (generate destination policy : Program Outcome).events store prompter = [] := by
  rw [generate_eq, Program.events, htaken]
  rfl

theorem events_generate_of_free (hfree : SkeletonStore.holds store destination = false)
    (policy : EmptyTokens) (prompter : π) :
    (generate destination policy : Program Outcome).events store prompter =
      (if destination.isPythonModule then [] else [.noPythonSuffix destination]) ++
        (generateUnwarned destination policy).events store prompter := by
  rw [generate_eq, generateUnwarned_eq, Program.events, Program.events, hfree]
  cases destination.isPythonModule <;> rfl

/-- **The warning is exact and harmless.**  It comes exactly once where the destination is free,
    right then, unless the file name ends in `.py` and has something before that.  None of the
    generator's other calls reports a warning.  They are the same without this one, as are the
    result, the store, the prompter and all other events. -/
theorem generate_warns_once {name : String} (hname : destination.fileName? = some name)
    (policy : EmptyTokens) (session : Session σ π) :
    (SkeletonStore.holds session.store destination = true →
        (generate destination policy : Program Outcome).calls session.store session.prompter =
          [.taken destination] ∧
        (generate destination policy : Program Outcome).events session.store session.prompter =
          []) ∧
      (SkeletonStore.holds session.store destination = false →
        ∃ rest : List Program.Call, (∀ call ∈ rest, call.IsQuiet) ∧
          (generate destination policy : Program Outcome).calls session.store session.prompter =
            .taken destination ::
              ((if EndsInPy name ∧ name ≠ ".py" then []
                else [.note (.noPythonSuffix destination)]) ++ rest) ∧
          (generateUnwarned destination policy).calls session.store session.prompter =
            .taken destination :: rest ∧
          (generate destination policy : Program Outcome).events session.store session.prompter =
            (if EndsInPy name ∧ name ≠ ".py" then [] else [.noPythonSuffix destination]) ++
              (generateUnwarned destination policy).events session.store session.prompter) ∧
      ∃ (store : σ) (prompter : π) (result : Except Fault Outcome),
        (generate destination policy : SessionM σ π Outcome) session =
          Session.settle (Session.reporting { session with store, prompter }
            ((generate destination policy : Program Outcome).events
              session.store session.prompter)) result ∧
        (generateUnwarned destination policy).runIn session =
          Session.settle (Session.reporting { session with store, prompter }
            ((generateUnwarned destination policy).events session.store session.prompter))
              result := by
  refine ⟨fun htaken => ?_, fun hfree => ?_, ?_⟩
  · exact ⟨calls_generate_of_holds htaken policy _, events_generate_of_holds htaken policy _⟩
  · refine ⟨_, fun call => Program.allowed_of_mem_calls (isQuiet_describe destination policy), ?_,
      calls_generateUnwarned_of_free hfree policy _, ?_⟩
    · rw [calls_generate_of_free hfree]
      simp only [isPythonModule_iff hname]
    · rw [events_generate_of_free hfree]
      simp only [isPythonModule_iff hname]
  · have hrun := Program.runIn_eq (generate destination policy : Program Outcome) session
    rw [Program.runIn_generate] at hrun
    refine ⟨_, _, _, hrun, ?_⟩
    rw [← effect_generateUnwarned]
    exact Program.runIn_eq _ session

/-- A name with other characters at its end, behind which there are separators. -/
theorem generate_warns_once_text :
    Path.fileName? ⟨"notes/rocket.txt//"⟩ = some "rocket.txt" ∧
    ∃ rest : List Program.Call, (∀ call ∈ rest, call.IsQuiet) ∧
      (generate ⟨"notes/rocket.txt//"⟩ .preserve : Program Outcome).calls
          (⟨[]⟩ : MemoryStore) (⟨[], []⟩ : Script) =
        .taken ⟨"notes/rocket.txt//"⟩ ::
          .note (.noPythonSuffix ⟨"notes/rocket.txt//"⟩) :: rest := by
  have hname : Path.fileName? ⟨"notes/rocket.txt//"⟩ = some "rocket.txt" := by decide
  obtain ⟨rest, hquiet, hcalls, -⟩ := (generate_warns_once hname .preserve
    (⟨⟨[]⟩, ⟨[], []⟩, .standard, []⟩ : Session MemoryStore Script)).2.1 rfl
  rw [if_neg (by decide)] at hcalls
  exact ⟨hname, rest, hquiet, hcalls⟩

end Generating

/-- The name `.py` ends in `.py`, and is warned about. -/
theorem generate_warns_of_bare_suffix :
    Path.fileName? ⟨".py"⟩ = some ".py" ∧ EndsInPy ".py" ∧
    SkeletonStore.holds (⟨[]⟩ : MemoryStore) ⟨".py"⟩ = false ∧
    .note (.noPythonSuffix ⟨".py"⟩) ∈ (generate ⟨".py"⟩ .preserve : Program Outcome).calls
      (⟨[]⟩ : MemoryStore)
      (⟨["rocket", "location stage", "launched docked", "launch"], []⟩ : Script) := by
  refine ⟨by decide, by decide, rfl, ?_⟩
  rw [calls_generate_of_free rfl]
  simp [show Path.isPythonModule ⟨".py"⟩ = false by decide]

end PlanScaffold
