/-
  PlanScaffold/Proofs/Memory/WriteOnce.lean
  =========================================
  **A store in memory is a map that is written once.**

  What anybody can see of a store in memory is told by a finite map from the steps of paths to
  texts (`Contents`).  An `Access` is anything that is done to the store or asked of it, by itself
  or by the generator; what it comes to is said twice, once for the store (`Access.perform`) and once
  for the map (`Access.onMap`).  The invariant between the two is `Represents`: no key is in the
  store twice, and each has the text that the map has for it.  Every request keeps it and is
  answered alike by both (`onMap_perform`), hence so is every run.

  Only `withFile` gives another text to a path that has one.  In a run without it, what is once
  read at a path is read there ever after, however the path is spelled.
-/
import Mathlib.Data.Finmap
import Mathlib.Data.List.Forall2
import PlanScaffold.Proofs.Generate
import PlanScaffold.Proofs.Operations
import PlanScaffold.Proofs.Spellings

namespace PlanScaffold

/-- A finite map from paths to texts, in which all spellings of a path are one key. -/
abbrev Contents := Finmap fun _ : List Path.Step => String

/-! ### The store and the map -/

namespace MemoryStore

/-- The map has the texts of the store, which has one for each of its keys. -/
structure Represents (store : MemoryStore) (contents : Contents) : Prop where
  distinct : (store.files.map Prod.fst).Nodup
  lookup : ∀ key, store.files.lookup key = contents.lookup key

variable {store : MemoryStore} {contents : Contents}

theorem represents_empty : Represents {} ∅ where
  distinct := List.nodup_nil
  lookup _ := rfl

theorem lookup_insert_eq_ite (contents : Contents) (key other : List Path.Step) (content : String) :
    (contents.insert key content).lookup other =
      if other = key then some content else contents.lookup other := by
  by_cases hsame : other = key
  · rw [if_pos hsame, hsame, Finmap.lookup_insert]
  · rw [if_neg hsame, Finmap.lookup_insert_of_ne contents hsame]

namespace Represents

theorem read? (hrep : store.Represents contents) (path : Path) :
    store.read? path = contents.lookup path.steps :=
  hrep.lookup path.steps

theorem holds (hrep : store.Represents contents) (path : Path) :
    store.holds path = (contents.lookup path.steps).isSome := by
  rw [MemoryStore.holds, hrep.read?]

theorem isEmpty (hrep : store.Represents contents) : store.isEmpty = decide (contents = ∅) := by
  rw [MemoryStore.isEmpty, Bool.eq_iff_iff, List.isEmpty_iff, decide_eq_true_eq]
  constructor
  · intro hfiles
    apply Finmap.ext_lookup
    intro key
    rw [← hrep.lookup, hfiles]
    rfl
  · rintro rfl
    cases hfiles : store.files with
    | nil => rfl
    | cons file rest =>
      have hfile := hrep.lookup file.1
      rw [hfiles, Finmap.lookup_empty, List.lookup_cons_self] at hfile
      cases hfile

theorem withFile (hrep : store.Represents contents) (path : Path) (content : String) :
    (store.withFile path content).Represents (contents.insert path.steps content) where
  distinct := by
    show (path.steps :: (store.files.filter _).map Prod.fst).Nodup
    rw [List.nodup_cons]
    constructor
    · intro hmem
      obtain ⟨file, hfile, hkey⟩ := List.mem_map.mp hmem
      simpa [hkey] using (List.mem_filter.mp hfile).2
    · exact hrep.distinct.sublist (List.filter_sublist.map Prod.fst)
  lookup := by
    intro key
    rw [lookup_insert_eq_ite, ← hrep.lookup]
    exact lookup_replace content store.files

theorem create_of_bound (hrep : store.Represents contents) {path : Path} {text : String}
    (hbound : contents.lookup path.steps = some text) (content : String) :
    SkeletonStore.create store path content = (.error (.destinationExists path), store) :=
  create_of_holds (by rw [hrep.holds, hbound]; rfl) content

theorem create_of_unbound (hrep : store.Represents contents) {path : Path}
    (hfree : contents.lookup path.steps = none) (content : String) :
    SkeletonStore.create store path content =
        (.ok (), ⟨(path.steps, content) :: store.files⟩) ∧
      Represents ⟨(path.steps, content) :: store.files⟩
        (contents.insert path.steps content) := by
  have hstore : store.holds path = false := by rw [hrep.holds, hfree]; rfl
  constructor
  · show store.create path content = _
    rw [MemoryStore.create, hstore]
    rfl
  · constructor
    · show (path.steps :: store.files.map Prod.fst).Nodup
      rw [List.nodup_cons]
      refine ⟨?_, hrep.distinct⟩
      intro hmem
      obtain ⟨file, hfile, hkey⟩ := List.mem_map.mp hmem
      rw [← hrep.lookup, List.lookup_eq_none_iff] at hfree
      simpa [hkey] using hfree file hfile
    · intro key
      rw [lookup_insert_eq_ite, ← hrep.lookup]
      exact lookup_cons_eq_ite content store.files

end Represents

end MemoryStore

/-! ### Access -/

/-- Something that is done to a store in memory or asked of it. -/
inductive Access (π : Type) where
  | withFile (path : Path) (content : String)
  | read (path : Path)
  | isEmpty
  /-- From now on, answers come from this prompter. -/
  | prompter (next : π)
  | operate (operation : Operation)

/-- What a request gives back. -/
inductive Access.Value where
  | content (content? : Option String)
  | result (result : Except Fault Operation.Value)

variable {π : Type} [Prompter π]

/-- The request, made in a session. -/
def Access.perform (session : Session MemoryStore π) :
    Access π → Access.Value × Session MemoryStore π
  | .withFile path content =>
    (.result (.ok .nothing), { session with store := session.store.withFile path content })
  | .read path => (.content (session.store.read? path), session)
  | .isEmpty => (.result (.ok (.flag session.store.isEmpty)), session)
  | .prompter next => (.result (.ok .nothing), { session with prompter := next })
  | .operate operation =>
    let (result, after) := session.within operation.perform
    (.result result, after)

/-- What an operation comes to, told by a map. -/
def Operation.onMap (contents : Contents) (prompter : π) :
    Operation → Except Fault Operation.Value × Contents × π
  | .taken path => (.ok (.flag (contents.lookup path.steps).isSome), contents, prompter)
  | .create path content =>
    match contents.lookup path.steps with
    | some _ => (.error (.destinationExists path), contents, prompter)
    | none => (.ok .nothing, contents.insert path.steps content, prompter)
  | .ensureAvailable destination =>
    match contents.lookup destination.steps with
    | some _ => (.error (.destinationExists destination), contents, prompter)
    | none => (.ok .nothing, contents, prompter)
  | .generate destination policy =>
    match contents.lookup destination.steps with
    | some _ => (.error (.destinationExists destination), contents, prompter)
    | none =>
      match (PlanScaffold.collectAnswers policy : Program Answers).outcome prompter with
      | (.error fault, after) => (.error fault, contents, after)
      | (.ok answers, after) =>
        (.ok (.outcome ⟨destination, (Skeleton.render answers).utf8ByteSize⟩),
          contents.insert destination.steps (Skeleton.render answers), after)
  | asking =>
    let (result, after) := (asking.perform : Program Operation.Value).outcome prompter
    (result, contents, after)

/-- What a request comes to, told by a map. -/
def Access.onMap (contents : Contents) (prompter : π) : Access π → Access.Value × Contents × π
  | .withFile path content =>
    (.result (.ok .nothing), contents.insert path.steps content, prompter)
  | .read path => (.content (contents.lookup path.steps), contents, prompter)
  | .isEmpty => (.result (.ok (.flag (contents = ∅))), contents, prompter)
  | .prompter next => (.result (.ok .nothing), contents, next)
  | .operate operation =>
    let (result, after) := operation.onMap contents prompter
    (.result result, after)

/-- What was seen of a store, and what a map tells. -/
structure Tells (told : Access.Value × Contents × π)
    (seen : Access.Value × Session MemoryStore π) : Prop where
  reply : seen.1 = told.1
  represents : seen.2.store.Represents told.2.1
  prompter : seen.2.prompter = told.2.2

/-- A result in a store, and the same result in a map that the store represents. -/
structure SameEffect {α : Type} (told : α × Contents × π) (seen : α × MemoryStore × π) : Prop where
  result : seen.1 = told.1
  represents : seen.2.1.Represents told.2.1
  prompter : seen.2.2 = told.2.2

section Effects

variable {store : MemoryStore} {contents : Contents}

/-- An operation without a path leaves the store and the map alone. -/
theorem effect_asking_onMap (hrep : store.Represents contents) (operation : Operation)
    (hpath : operation.path? = none) (prompter : π) :
    SameEffect
      (((operation.perform : Program Operation.Value).outcome prompter).1, contents,
        ((operation.perform : Program Operation.Value).outcome prompter).2)
      ((operation.perform : Program Operation.Value).effect store prompter) := by
  rw [Program.effect_of_sparesStore (Operation.sparesStore_perform hpath)]
  exact ⟨rfl, hrep, rfl⟩

theorem effect_generate_onMap (hrep : store.Represents contents) (destination : Path)
    (policy : EmptyTokens) (prompter : π) :
    SameEffect ((Operation.generate destination policy).onMap contents prompter)
      (((Operation.generate destination policy).perform : Program Operation.Value).effect store
        prompter) := by
  have hholds : SkeletonStore.holds store destination = _ := hrep.holds destination
  rw [Operation.onMap, Operation.perform, Program.effect_bind]
  cases hbound : contents.lookup destination.steps with
  | some text =>
    rw [hbound] at hholds
    rw [effect_generate_of_holds hholds]
    exact ⟨rfl, hrep, rfl⟩
  | none =>
    rw [hbound] at hholds
    rw [effect_generate_of_free hholds]
    rcases (collectAnswers policy : Program Answers).outcome prompter with ⟨fault | answers, after⟩
    · exact ⟨rfl, hrep, rfl⟩
    · obtain ⟨hcreate, hafter⟩ := hrep.create_of_unbound hbound (Skeleton.render answers)
      dsimp only
      rw [effect_keep, hcreate]
      exact ⟨rfl, hafter, rfl⟩

theorem effect_perform_onMap (hrep : store.Represents contents) (prompter : π)
    (operation : Operation) :
    SameEffect (operation.onMap contents prompter)
      ((operation.perform : Program Operation.Value).effect store prompter) := by
  cases operation with
  | taken path =>
    refine ⟨?_, hrep, rfl⟩
    exact congrArg (fun bound => Except.ok (Operation.Value.flag bound)) (hrep.holds path)
  | create path content =>
    rw [Operation.onMap, Operation.perform, Program.effect_bind, effect_create]
    cases hbound : contents.lookup path.steps with
    | some text =>
      rw [hrep.create_of_bound hbound]
      exact ⟨rfl, hrep, rfl⟩
    | none =>
      obtain ⟨hcreate, hafter⟩ := hrep.create_of_unbound hbound content
      rw [hcreate]
      exact ⟨rfl, hafter, rfl⟩
  | ensureAvailable destination =>
    have hholds : SkeletonStore.holds store destination = _ := hrep.holds destination
    rw [Operation.onMap, Operation.perform, Program.effect_bind, effect_ensureAvailable, hholds]
    cases contents.lookup destination.steps with
    | some text => exact ⟨rfl, hrep, rfl⟩
    | none => exact ⟨rfl, hrep, rfl⟩
  | generate destination policy => exact effect_generate_onMap hrep destination policy prompter
  | ask prompt => exact effect_asking_onMap hrep (.ask prompt) rfl prompter
  | collectName => exact effect_asking_onMap hrep .collectName rfl prompter
  | collectTokens prompt casing policy =>
    exact effect_asking_onMap hrep (.collectTokens prompt casing policy) rfl prompter
  | collectAnswers policy => exact effect_asking_onMap hrep (.collectAnswers policy) rfl prompter

end Effects

/-- Every access is answered alike by a store and by the map that it represents, and afterwards the
    store represents the map again. -/
theorem onMap_perform {session : Session MemoryStore π} {contents : Contents}
    (hrep : session.store.Represents contents) (access : Access π) :
    Tells (access.onMap contents session.prompter) (access.perform session) := by
  cases access with
  | withFile path content => exact ⟨rfl, hrep.withFile path content, rfl⟩
  | read path => exact ⟨congrArg Access.Value.content (hrep.read? path), hrep, rfl⟩
  | isEmpty =>
    refine ⟨?_, hrep, rfl⟩
    exact congrArg (fun empty => Access.Value.result (.ok (.flag empty))) hrep.isEmpty
  | prompter next => exact ⟨rfl, hrep, rfl⟩
  | operate operation =>
    obtain ⟨log, hwithin⟩ :=
      Session.within_runIn (operation.perform : Program Operation.Value) session
    rw [Operation.runIn_perform] at hwithin
    obtain ⟨hresult, hafter, hprompter⟩ := effect_perform_onMap hrep session.prompter operation
    rw [Access.perform, Access.onMap, hwithin]
    exact ⟨congrArg Access.Value.result hresult, hafter, hprompter⟩

/-! ### Runs -/

namespace Access

/-- What comes of accesses, one after another: every value, with the session after it. -/
def run (session : Session MemoryStore π) :
    List (Access π) → List (Access.Value × Session MemoryStore π)
  | [] => []
  | access :: rest => access.perform session :: run (access.perform session).2 rest

def runOnMap (contents : Contents) (prompter : π) :
    List (Access π) → List (Access.Value × Contents × π)
  | [] => []
  | access :: rest =>
    access.onMap contents prompter ::
      runOnMap (access.onMap contents prompter).2.1 (access.onMap contents prompter).2.2 rest

/-- The session after a number of accesses. -/
def after (session : Session MemoryStore π) (accesses : List (Access π)) :
    Session MemoryStore π :=
  accesses.foldl (fun session access => (access.perform session).2) session

/-- The access puts no text in place of another one. -/
def Keeps : Access π → Prop
  | .withFile _ _ => False
  | _ => True

end Access

theorem run_onMap {session : Session MemoryStore π} {contents : Contents}
    (hrep : session.store.Represents contents) (accesses : List (Access π)) :
    List.Forall₂ Tells (Access.runOnMap contents session.prompter accesses)
      (Access.run session accesses) := by
  induction accesses generalizing session contents with
  | nil => exact .nil
  | cons access rest ih =>
    have hfirst := onMap_perform hrep access
    have hrest := ih hfirst.represents
    rw [hfirst.prompter] at hrest
    exact .cons hfirst hrest

theorem represents_after {session : Session MemoryStore π} {contents : Contents}
    (hrep : session.store.Represents contents) (accesses : List (Access π)) :
    ∃ contents, (Access.after session accesses).store.Represents contents := by
  induction accesses generalizing session contents with
  | nil => exact ⟨contents, hrep⟩
  | cons access rest ih => exact ih (onMap_perform hrep access).represents

/-- A map is only added to, unless a text is put in place of another one. -/
theorem lookup_onMap {contents : Contents} {key : List Path.Step} {text : String}
    (hbound : contents.lookup key = some text) (prompter : π) {access : Access π}
    (hkeeps : access.Keeps) :
    (access.onMap contents prompter).2.1.lookup key = some text := by
  -- where a key was not bound, it is another one
  have hinsert : ∀ {other : List Path.Step} (content : String), contents.lookup other = none →
      (contents.insert other content).lookup key = some text := by
    intro other content hother
    have hdifferent : key ≠ other := by
      rintro rfl
      rw [hbound] at hother
      cases hother
    rw [Finmap.lookup_insert_of_ne contents hdifferent, hbound]
  cases access with
  | withFile path content => exact hkeeps.elim
  | read path => exact hbound
  | isEmpty => exact hbound
  | prompter next => exact hbound
  | operate operation =>
    show (operation.onMap contents prompter).2.1.lookup key = some text
    cases operation with
    | create path content =>
      rw [Operation.onMap]
      cases hpath : contents.lookup path.steps with
      | some other => exact hbound
      | none => exact hinsert content hpath
    | ensureAvailable destination =>
      rw [Operation.onMap]
      cases contents.lookup destination.steps <;> exact hbound
    | generate destination policy =>
      rw [Operation.onMap]
      cases hdestination : contents.lookup destination.steps with
      | some other => exact hbound
      | none =>
        dsimp only
        rcases (collectAnswers policy : Program Answers).outcome prompter with
          ⟨fault | answers, after⟩
        · exact hbound
        · exact hinsert _ hdestination
    | taken | ask | collectName | collectTokens | collectAnswers => exact hbound

/-- What is read at a path stays there until another text is put in its place. -/
theorem read?_after {session : Session MemoryStore π} {contents : Contents}
    (hrep : session.store.Represents contents) {accesses : List (Access π)}
    (hkeeps : ∀ access ∈ accesses, access.Keeps) {path : Path} {text : String}
    (hread : session.store.read? path = some text) :
    (Access.after session accesses).store.read? path = some text := by
  induction accesses generalizing session contents with
  | nil => exact hread
  | cons access rest ih =>
    obtain ⟨haccess, hrest⟩ := List.forall_mem_cons.mp hkeeps
    have hafter := (onMap_perform hrep access).represents
    refine ih hafter hrest ?_
    rw [hafter.read?]
    rw [hrep.read?] at hread
    exact lookup_onMap hread session.prompter haccess

/-- **A store in memory is a map that is written once.**  From an empty store on, whatever is done
    and asked is answered as by a finite map from paths to texts, in which the spellings of a
    path are one key.  Unless `withFile` puts another text in its place, a text that was read at a
    path is read there ever after, under all of its spellings. -/
theorem runs_write_once (prompter : π) (threshold : Threshold) (log : List Event)
    (accesses : List (Access π)) :
    List.Forall₂ Tells (Access.runOnMap ∅ prompter accesses)
      (Access.run ⟨{}, prompter, threshold, log⟩ accesses) ∧
    (∀ (session : Session MemoryStore π) (path : Path),
      (session.store.holds path = true ↔ ∃ text, session.store.read? path = some text)) ∧
    (∀ path other : Path, path.steps = other.steps ↔ path.Respells other) ∧
    ∀ earlier later, accesses = earlier ++ later → (∀ access ∈ later, access.Keeps) →
      ∀ path other text, path.Respells other →
        (Access.after ⟨{}, prompter, threshold, log⟩ earlier).store.read? path = some text →
        (Access.after ⟨{}, prompter, threshold, log⟩ accesses).store.read? other = some text := by
  have hrep : (⟨{}, prompter, threshold, log⟩ : Session MemoryStore π).store.Represents ∅ :=
    MemoryStore.represents_empty
  refine ⟨run_onMap hrep accesses, ?_, fun path other => Path.steps_eq_iff, ?_⟩
  · intro session path
    exact Option.isSome_iff_exists
  · rintro earlier later rfl hkeeps path other text hspelled hread
    obtain ⟨contents, hearlier⟩ := represents_after hrep earlier
    have hlater := read?_after hearlier hkeeps hread
    rw [MemoryStore.read?, hspelled.steps_eq] at hlater
    rw [Access.after, List.foldl_append]
    exact hlater

end PlanScaffold
