/-
  PlanScaffold/Proofs/Toml/WellKeyed.lean
  =======================================
  **Tables without repetition.**

  A document is put together from expressions, and each of them changes one table: an assignment
  adds a key that is not there yet, a header takes a table out of the one that holds it, and it is
  put back when the next header begins.  No key gets into a table twice by that.  For each change
  of one table this is seen from the table itself, and a change that is made in the table behind a
  path (`reached_within`) leaves all others as they are (`WellKeyed.within`).

  The open table can be put back, because its key was taken out when it was opened.  This is the one
  thing that a draft has to keep besides (`Draft.WellKeyed`).
-/
import Mathlib.Data.List.Nodup
import PlanScaffold.Toml.Document

namespace PlanScaffold.Toml

/-! ### Tables without repetition -/

/-- No table within the value has a key twice. -/
inductive Value.WellKeyed : Value → Prop where
  | scalar (found : Scalar) : WellKeyed (.scalar found)
  | array {items : List Value} (hitems : ∀ item ∈ items, item.WellKeyed) :
    WellKeyed (.array items)
  | table (origin : Origin) {entries : Entries} (hkeys : (entries.map Prod.fst).Nodup)
    (hvalues : ∀ entry ∈ entries, entry.2.WellKeyed) : WellKeyed (.table origin entries)
  | tables {items : List Entries} (hkeys : ∀ item ∈ items, (item.map Prod.fst).Nodup)
    (hvalues : ∀ item ∈ items, ∀ entry ∈ item, entry.2.WellKeyed) : WellKeyed (.tables items)

/-- A table that has no key twice, and neither has any table within it. -/
structure Entries.WellKeyed (entries : Entries) : Prop where
  keys : (entries.map Prod.fst).Nodup
  values : ∀ entry ∈ entries, entry.2.WellKeyed

theorem Value.wellKeyed_table_iff {origin : Origin} {entries : Entries} :
    Value.WellKeyed (.table origin entries) ↔ entries.WellKeyed := by
  constructor
  · rintro (_ | _ | ⟨_, hkeys, hvalues⟩)
    exact ⟨hkeys, hvalues⟩
  · rintro ⟨hkeys, hvalues⟩
    exact .table origin hkeys hvalues

theorem Value.wellKeyed_tables_iff {items : List Entries} :
    Value.WellKeyed (.tables items) ↔ ∀ item ∈ items, Entries.WellKeyed item := by
  constructor
  · rintro (_ | _ | _ | ⟨hkeys, hvalues⟩)
    exact fun item hitem => ⟨hkeys item hitem, hvalues item hitem⟩
  · exact fun hitems =>
      .tables (fun item hitem => (hitems item hitem).keys)
        fun item hitem => (hitems item hitem).values

namespace Entries

variable {entries inner : Entries} {key : String} {value : Value}

theorem wellKeyed_nil : WellKeyed [] where
  keys := .nil
  values := by simp

theorem key_notMem_of_get?_eq_none (hfree : entries.get? key = none) :
    key ∉ entries.map Prod.fst := by
  rw [List.mem_map]
  rintro ⟨entry, hentry, rfl⟩
  have hdiffers := List.lookup_eq_none_iff.mp hfree entry hentry
  simp at hdiffers

theorem mem_of_get?_eq_some (hfound : entries.get? key = some value) : (key, value) ∈ entries := by
  obtain ⟨before, after, rfl, -⟩ := List.lookup_eq_some_iff.mp hfound
  simp

theorem WellKeyed.get? (hentries : entries.WellKeyed) (hfound : entries.get? key = some value) :
    value.WellKeyed :=
  hentries.values _ (mem_of_get?_eq_some hfound)

theorem WellKeyed.concat (hentries : entries.WellKeyed) (hfree : entries.get? key = none)
    (hvalue : value.WellKeyed) : WellKeyed (entries ++ [(key, value)]) where
  keys := by
    rw [List.map_append, List.nodup_append]
    refine ⟨hentries.keys, List.nodup_singleton _, ?_⟩
    intro other hother last hlast hsame
    rw [List.map_singleton, List.mem_singleton] at hlast
    rw [hsame, hlast] at hother
    exact key_notMem_of_get?_eq_none hfree hother
  values := by
    intro entry hentry
    rcases List.mem_append.mp hentry with hold | hnew
    · exact hentries.values entry hold
    · rw [List.mem_singleton.mp hnew]
      exact hvalue

theorem map_fst_replace (entries : Entries) (key : String) (value : Value) :
    (entries.replace key value).map Prod.fst = entries.map Prod.fst := by
  rw [replace, List.map_map]
  apply List.map_congr_left
  intro entry _
  by_cases hkey : entry.1 = key <;> simp [hkey]

theorem WellKeyed.replace (hentries : entries.WellKeyed) (hvalue : value.WellKeyed) :
    (entries.replace key value).WellKeyed where
  keys := by
    rw [map_fst_replace]
    exact hentries.keys
  values := by
    intro entry hentry
    obtain ⟨old, hold, rfl⟩ := List.mem_map.mp hentry
    by_cases hkey : old.1 = key
    · rw [if_pos hkey]
      exact hvalue
    · rw [if_neg hkey]
      exact hentries.values old hold

theorem WellKeyed.remove (hentries : entries.WellKeyed) (key : String) :
    (entries.remove key).WellKeyed where
  keys := hentries.keys.sublist (List.filter_sublist.map Prod.fst)
  values := fun entry hentry => hentries.values entry (List.mem_filter.mp hentry).1

theorem get?_remove (entries : Entries) (key : String) : (entries.remove key).get? key = none := by
  apply List.lookup_eq_none_iff.mpr
  intro entry hentry
  have hdiffers := (List.mem_filter.mp hentry).2
  simpa [bne_comm] using hdiffers

theorem get?_concat (hfree : entries.get? key = none) (value : Value) :
    get? (entries ++ [(key, value)]) key = some value := by
  rw [Entries.get?, List.lookup_append]
  rw [Entries.get?] at hfree
  simp [hfree]

theorem get?_replace {old : Value} (hfound : entries.get? key = some old) (value : Value) :
    (entries.replace key value).get? key = some value := by
  induction entries with
  | nil => cases hfound
  | cons entry rest ih =>
    by_cases hkey : entry.1 = key
    · simp [Entries.get?, Entries.replace, hkey]
    · have hskip : (key == entry.1) = false := by simpa using Ne.symm hkey
      rw [Entries.get?, List.lookup_cons, hskip] at hfound
      rw [Entries.get?, Entries.replace, List.map_cons, if_neg hkey, List.lookup_cons, hskip]
      exact ih hfound

theorem wellKeyed_of_getLast? {items : List Entries}
    (hitems : Value.WellKeyed (.tables items)) (hlast : items.getLast? = some inner) :
    inner.WellKeyed :=
  Value.wellKeyed_tables_iff.mp hitems inner (List.mem_of_getLast? hlast)

theorem wellKeyed_replaceLast {items : List Entries} (hitems : Value.WellKeyed (.tables items))
    (hinner : inner.WellKeyed) : Value.WellKeyed (.tables (items.dropLast ++ [inner])) := by
  rw [Value.wellKeyed_tables_iff] at hitems ⊢
  intro item hitem
  rcases List.mem_append.mp hitem with hold | hnew
  · exact hitems item (List.dropLast_subset items hold)
  · rw [List.mem_singleton.mp hnew]
    exact hinner

/-- Defining a key in a table leaves it without repetition. -/
theorem WellKeyed.define {path : List String} {last : String} {after : Entries}
    (hentries : entries.WellKeyed) (hvalue : value.WellKeyed)
    (hdefine : entries.define path last value = some after) : after.WellKeyed := by
  fun_induction Entries.define entries path last value generalizing after with
  | case1 => cases hdefine
  | case2 entries hfree =>
    cases hdefine
    exact hentries.concat hfree hvalue
  | case3 entries part rest hfree ih =>
    obtain ⟨made, hmade, hafter⟩ := Option.bind_eq_some_iff.mp hdefine
    cases hafter
    exact hentries.concat hfree (Value.wellKeyed_table_iff.mpr (ih wellKeyed_nil hmade))
  | case4 entries part rest found hfound ih =>
    obtain ⟨made, hmade, hafter⟩ := Option.bind_eq_some_iff.mp hdefine
    cases hafter
    have hinner := Value.wellKeyed_table_iff.mp (hentries.get? hfound)
    exact hentries.replace (Value.wellKeyed_table_iff.mpr (ih hinner hmade))
  | case5 => cases hdefine
  | case6 entries part rest found hfound _ ih =>
    obtain ⟨made, hmade, hafter⟩ := Option.bind_eq_some_iff.mp hdefine
    cases hafter
    have hinner := Value.wellKeyed_table_iff.mp (hentries.get? hfound)
    exact hentries.replace (Value.wellKeyed_table_iff.mpr (ih hinner hmade))
  | case7 => cases hdefine
  | case8 entries part rest items hfound _ ih =>
    obtain ⟨newest, hnewest, hdefine⟩ := Option.bind_eq_some_iff.mp hdefine
    obtain ⟨made, hmade, hafter⟩ := Option.bind_eq_some_iff.mp hdefine
    cases hafter
    have hitems := hentries.get? hfound
    have hchanged := ih newest (wellKeyed_of_getLast? hitems hnewest) hmade
    exact hentries.replace (wellKeyed_replaceLast hitems hchanged)
  | case9 => cases hdefine

/-! ### Tables behind a path -/

/-- The table that a path of headers leads to; one that is missing is empty. -/
def reached : List String → Entries → Entries
  | [], entries => entries
  | part :: rest, entries =>
    match entries.get? part with
    | some (.table _ inner) => reached rest inner
    | some (.tables items) => reached rest (items.getLast?.getD [])
    | _ => reached rest []

theorem WellKeyed.reached (hentries : entries.WellKeyed) (path : List String) :
    (entries.reached path).WellKeyed := by
  fun_induction Entries.reached path entries with
  | case1 => exact hentries
  | case2 entries part rest origin inner hfound ih =>
    exact ih (Value.wellKeyed_table_iff.mp (hentries.get? hfound))
  | case3 entries part rest items hfound ih =>
    apply ih
    cases hlast : items.getLast? with
    | none => exact wellKeyed_nil
    | some newest => exact wellKeyed_of_getLast? (hentries.get? hfound) hlast
  | case4 entries part rest _ _ ih => exact ih wellKeyed_nil

variable {α : Type} {change : Entries → Option (α × Entries)} {path : List String} {result : α}
  {after : Entries}

/-- A change within a table is made in the table that the path leads to. -/
theorem reached_within (hwithin : within change path entries = some (result, after)) :
    change (reached path entries) = some (result, reached path after) := by
  fun_induction within change path entries generalizing after with
  | case1 entries => exact hwithin
  | case2 part rest entries hfree ih =>
    obtain ⟨⟨_, made⟩, hmade, hafter⟩ := Option.bind_eq_some_iff.mp hwithin
    cases hafter
    have hchange := ih hmade
    simpa only [reached, hfree, get?_concat hfree] using hchange
  | case3 => cases hwithin
  | case4 part rest entries origin inner _ hfound ih =>
    obtain ⟨⟨_, made⟩, hmade, hafter⟩ := Option.bind_eq_some_iff.mp hwithin
    cases hafter
    have hchange := ih hmade
    simpa only [reached, hfound, get?_replace hfound] using hchange
  | case5 part rest entries items hfound ih =>
    obtain ⟨newest, hnewest, hwithin⟩ := Option.bind_eq_some_iff.mp hwithin
    obtain ⟨⟨_, made⟩, hmade, hafter⟩ := Option.bind_eq_some_iff.mp hwithin
    cases hafter
    have hchange := ih newest hmade
    simpa [reached, hfound, get?_replace hfound, hnewest] using hchange
  | case6 => cases hwithin

/-- A change within a table can only make a repetition in that table. -/
theorem WellKeyed.within (hentries : entries.WellKeyed)
    (hwithin : Entries.within change path entries = some (result, after))
    (hchanged : (after.reached path).WellKeyed) : after.WellKeyed := by
  fun_induction Entries.within change path entries generalizing after with
  | case1 entries => exact hchanged
  | case2 part rest entries hfree ih =>
    obtain ⟨⟨_, made⟩, hmade, hafter⟩ := Option.bind_eq_some_iff.mp hwithin
    cases hafter
    rw [Entries.reached, get?_concat hfree] at hchanged
    have hinner := ih wellKeyed_nil hmade hchanged
    exact hentries.concat hfree (Value.wellKeyed_table_iff.mpr hinner)
  | case3 => cases hwithin
  | case4 part rest entries origin inner _ hfound ih =>
    obtain ⟨⟨_, made⟩, hmade, hafter⟩ := Option.bind_eq_some_iff.mp hwithin
    cases hafter
    rw [Entries.reached, get?_replace hfound] at hchanged
    have hinner := ih (Value.wellKeyed_table_iff.mp (hentries.get? hfound)) hmade hchanged
    exact hentries.replace (Value.wellKeyed_table_iff.mpr hinner)
  | case5 part rest entries items hfound ih =>
    obtain ⟨newest, hnewest, hwithin⟩ := Option.bind_eq_some_iff.mp hwithin
    obtain ⟨⟨_, made⟩, hmade, hafter⟩ := Option.bind_eq_some_iff.mp hwithin
    cases hafter
    rw [Entries.reached, get?_replace hfound] at hchanged
    dsimp only at hchanged
    rw [List.getLast?_concat, Option.getD_some] at hchanged
    have hitems := hentries.get? hfound
    have hinner := ih newest (wellKeyed_of_getLast? hitems hnewest) hmade hchanged
    exact hentries.replace (wellKeyed_replaceLast hitems hinner)
  | case6 => cases hwithin

end Entries

/-! ### Drafts -/

/-- An expression that assigns no value with a repetition in it. -/
def Expression.WellKeyed : Expression → Prop
  | .assign _ _ value => value.WellKeyed
  | .header _ _ | .arrayHeader _ _ | .nothing => True

namespace Draft

variable {draft later : Draft} {entries : Entries} {last : String}

/-- A draft that can be closed without a repetition: where the open table belongs, its key is
    free. -/
structure WellKeyed (draft : Draft) : Prop where
  closed : draft.closed.WellKeyed
  current : draft.current.WellKeyed
  free : ∀ path last, draft.target = .table path last →
    (draft.closed.reached path).get? last = none

theorem wellKeyed_empty : empty.WellKeyed where
  closed := Entries.wellKeyed_nil
  current := Entries.wellKeyed_nil
  free := by
    intro path last htarget
    cases htarget

theorem WellKeyed.close (hdraft : draft.WellKeyed) (hclose : draft.close = some entries) :
    entries.WellKeyed := by
  unfold Draft.close at hclose
  split at hclose
  · cases hclose
    exact hdraft.current
  · next path last htarget =>
    obtain ⟨⟨_, after⟩, hwithin, rfl⟩ := Option.map_eq_some_iff.mp hclose
    have hchange := Entries.reached_within hwithin
    simp only [Option.some.injEq, Prod.mk.injEq, true_and] at hchange
    refine hdraft.closed.within hwithin ?_
    rw [← hchange]
    exact (hdraft.closed.reached path).concat (hdraft.free path last htarget)
      (Value.wellKeyed_table_iff.mpr hdraft.current)
  · next path last htarget =>
    obtain ⟨⟨_, after⟩, hwithin, rfl⟩ := Option.map_eq_some_iff.mp hclose
    have hchange := Entries.reached_within hwithin
    split at hchange
    · next items hfound =>
      simp only [Option.some.injEq, Prod.mk.injEq, true_and] at hchange
      have hreached := hdraft.closed.reached path
      have hitems := Value.wellKeyed_tables_iff.mp (hreached.get? hfound)
      refine hdraft.closed.within hwithin ?_
      rw [← hchange]
      refine hreached.replace (Value.wellKeyed_tables_iff.mpr ?_)
      intro item hitem
      rcases List.mem_append.mp hitem with hold | hnew
      · exact hitems item hold
      · rw [List.mem_singleton.mp hnew]
        exact hdraft.current
    · cases hchange

theorem wellKeyed_of_takeOpened {opened after : Entries} (hentries : entries.WellKeyed)
    (htake : takeOpened last entries = some (opened, after)) :
    opened.WellKeyed ∧ after.WellKeyed ∧ after.get? last = none := by
  unfold takeOpened at htake
  split at htake
  · next hfree =>
    cases htake
    exact ⟨Entries.wellKeyed_nil, hentries, hfree⟩
  · next inner hfound =>
    cases htake
    exact ⟨Value.wellKeyed_table_iff.mp (hentries.get? hfound), hentries.remove last,
      Entries.get?_remove entries last⟩
  · cases htake

theorem wellKeyed_of_prepareArray {after : Entries} (hentries : entries.WellKeyed)
    (hprepare : prepareArray last entries = some ((), after)) : after.WellKeyed := by
  unfold prepareArray at hprepare
  split at hprepare
  · next hfree =>
    cases hprepare
    exact hentries.concat hfree (Value.wellKeyed_tables_iff.mpr (by simp))
  · cases hprepare
    exact hentries
  · cases hprepare

theorem WellKeyed.add {expression : Expression} (hdraft : draft.WellKeyed)
    (hexpression : expression.WellKeyed) (hadd : draft.add expression = some later) :
    later.WellKeyed := by
  cases expression with
  | nothing =>
    cases hadd
    exact hdraft
  | assign path last value =>
    obtain ⟨current, hdefine, hlater⟩ := Option.bind_eq_some_iff.mp hadd
    cases hlater
    exact ⟨hdraft.closed, hdraft.current.define hexpression hdefine, hdraft.free⟩
  | header path last =>
    obtain ⟨entries, hclose, hadd⟩ := Option.bind_eq_some_iff.mp hadd
    obtain ⟨⟨opened, closed⟩, hwithin, hlater⟩ := Option.bind_eq_some_iff.mp hadd
    cases hlater
    have hentries := hdraft.close hclose
    obtain ⟨hopened, hreached, hfree⟩ :=
      wellKeyed_of_takeOpened (hentries.reached path) (Entries.reached_within hwithin)
    refine ⟨hentries.within hwithin hreached, hopened, ?_⟩
    rintro _ _ ⟨⟩
    exact hfree
  | arrayHeader path last =>
    obtain ⟨entries, hclose, hadd⟩ := Option.bind_eq_some_iff.mp hadd
    obtain ⟨⟨_, closed⟩, hwithin, hlater⟩ := Option.bind_eq_some_iff.mp hadd
    cases hlater
    have hentries := hdraft.close hclose
    have hreached :=
      wellKeyed_of_prepareArray (hentries.reached path) (Entries.reached_within hwithin)
    refine ⟨hentries.within hwithin hreached, Entries.wellKeyed_nil, ?_⟩
    rintro _ _ ⟨⟩

theorem WellKeyed.foldlM {expressions : List Expression} (hdraft : draft.WellKeyed)
    (hexpressions : ∀ expression ∈ expressions, expression.WellKeyed)
    (hfold : expressions.foldlM Draft.add draft = some later) : later.WellKeyed := by
  induction expressions generalizing draft with
  | nil =>
    cases hfold
    exact hdraft
  | cons expression rest ih =>
    obtain ⟨hexpression, hrest⟩ := List.forall_mem_cons.mp hexpressions
    rw [List.foldlM_cons] at hfold
    obtain ⟨next, hadd, hfold⟩ := Option.bind_eq_some_iff.mp hfold
    exact ih (hdraft.add hexpression hadd) hrest hfold

end Draft

end PlanScaffold.Toml
