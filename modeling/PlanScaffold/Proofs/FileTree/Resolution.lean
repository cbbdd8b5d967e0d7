/-
  PlanScaffold/Proofs/FileTree/Resolution.lean
  ============================================
  **How paths resolve around a new entry.**

  A new entry is made at a place where the tree has nothing.  Two facts about walks carry
  everything that is said of it.  A walk that arrives only passes places that are there, so it
  arrives at the same place after the entry was made (`walk_put`); and a walk up to the directory
  that is to hold the entry can be continued by any further pieces (`walk_parent`).

  From these, a free place is one that the path does not yet name (`not_names_of_freePlace`), that it
  names afterwards (`locate_put`), and that it still finds when the entry has to be removed again
  (`placeOf_put`).
-/
import Mathlib.Tactic.SplitIfs
import PlanScaffold.Proofs.Lookup

namespace PlanScaffold.FileTree

theorem bind_eq_ok {ε α β : Type} {first : Except ε α} {next : α → Except ε β} {result : β} :
    (first >>= next) = .ok result ↔ ∃ value, first = .ok value ∧ next value = .ok result := by
  cases first with
  | error fault => simp [bind, Except.bind]
  | ok value => simp [bind, Except.bind]

@[simp] theorem mapError_eq_ok {ε ε' α : Type} {outcome : Except ε α} {wrap : ε → ε'} {value : α} :
    outcome.mapError wrap = .ok value ↔ outcome = .ok value := by
  cases outcome <;> simp [Except.mapError]

variable {tree : FileTree}

/-! ### Entries -/

theorem ne_root_of_lookup?_eq_none {place : Place} (hfree : tree.lookup? place = none) :
    place ≠ [] := by
  rintro rfl
  simp [lookup?] at hfree

theorem filter_entries_of_free {place : Place} (hfree : tree.lookup? place = none) :
    (tree.entries.filter fun known => known.1 != place) = tree.entries := by
  have hlookup : tree.entries.lookup place = none := by
    cases place with
    | nil => exact absurd rfl (ne_root_of_lookup?_eq_none hfree)
    | cons name names => exact hfree
  rw [List.filter_eq_self]
  intro known hknown
  have hdiffers := List.lookup_eq_none_iff.mp hlookup known hknown
  simpa [bne_comm] using hdiffers

@[simp] theorem put_put (place : Place) (first second : Entry) :
    (tree.put place first).put place second = tree.put place second := by
  simp [put]

theorem erase_put {place : Place} (hfree : tree.lookup? place = none) (entry : Entry) :
    (tree.put place entry).erase place = tree := by
  simp [put, erase, filter_entries_of_free hfree]

/-! ### Walks -/

section Walks

variable {links : Nat} {start place new : Place} {piece : String} {rest pieces : List String}

theorem walk_skip (hskip : piece = "" ∨ piece = ".") :
    tree.walk links start (piece :: rest) = tree.walk links start rest := by
  rw [walk, if_pos hskip]

theorem walk_up : tree.walk links start (".." :: rest) = tree.walk links start.dropLast rest := by
  rw [walk, if_neg (by decide), if_pos rfl]

theorem walk_name (hskip : ¬(piece = "" ∨ piece = ".")) (hup : piece ≠ "..")
    (hsize : ¬nameLimit < piece.utf8ByteSize) :
    tree.walk links start (piece :: rest) =
      match tree.lookup? (start ++ [piece]) with
      | none => .error .noEntry
      | some .directory => tree.walk links (start ++ [piece]) rest
      | some (.file _) => if rest = [] then .ok (start ++ [piece]) else .error .notADirectory
      | some (.link target) =>
        match links with
        | 0 => .error .linkLoop
        | links + 1 =>
          tree.walk links (if target.isAbsolute then [] else start) (target.pieces ++ rest) := by
  rw [walk, if_neg hskip, if_neg hup]
  exact if_neg hsize

/-- A walk that arrives does so as well in a tree with one entry more. -/
theorem walk_put (hfree : tree.lookup? new = none) (entry : Entry)
    (hwalk : tree.walk links start pieces = .ok place) :
    (tree.put new entry).walk links start pieces = .ok place := by
  -- what the walk has found somewhere is not at the new place
  have hkept : ∀ {known : Place} {found : Entry}, tree.lookup? known = some found →
      (tree.put new entry).lookup? known = some found := by
    intro known found hfound
    have hdifferent : known ≠ new := by
      rintro rfl
      rw [hfree] at hfound
      cases hfound
    rw [lookup?_put_other tree hdifferent, hfound]
  fun_induction walk tree links start pieces with
  | case1 links start => rw [walk]; exact hwalk
  | case2 links start piece rest hskip ih => rw [walk_skip hskip]; exact ih hwalk
  | case3 links start rest _ ih => rw [walk_up]; exact ih hwalk
  | case6 links start piece rest hskip hup hsize hfound ih =>
    rw [walk_name hskip hup hsize, hkept hfound]
    exact ih hwalk
  | case7 links start piece hskip hup hsize content hfound =>
    rw [walk_name hskip hup hsize, hkept hfound]
    exact hwalk
  | case10 start piece rest hskip hup hsize target hfound links ih =>
    rw [walk_name hskip hup hsize, hkept hfound]
    exact ih hwalk
  | case4 | case5 | case8 | case9 => cases hwalk

/-- A walk that ends by asking for a directory can be continued from there by any pieces. -/
theorem walk_parent (hwalk : tree.walk links start (pieces ++ ["."]) = .ok place) :
    ∃ left, ∀ rest, tree.walk links start (pieces ++ rest) = tree.walk left place rest := by
  fun_induction walk tree links start pieces with
  | case1 links start =>
    rw [List.nil_append, walk_skip (.inr rfl), walk] at hwalk
    cases hwalk
    exact ⟨links, fun rest => rfl⟩
  | case2 links start piece pieces hskip ih =>
    rw [List.cons_append, walk_skip hskip] at hwalk
    obtain ⟨left, hleft⟩ := ih hwalk
    exact ⟨left, fun rest => by rw [List.cons_append, walk_skip hskip, hleft]⟩
  | case3 links start pieces _ ih =>
    rw [List.cons_append, walk_up] at hwalk
    obtain ⟨left, hleft⟩ := ih hwalk
    exact ⟨left, fun rest => by rw [List.cons_append, walk_up, hleft]⟩
  | case4 links start piece pieces hskip hup hsize =>
    rw [List.cons_append, walk, if_neg hskip, if_neg hup, if_pos hsize] at hwalk
    cases hwalk
  | case5 links start piece pieces hskip hup hsize hfound =>
    rw [List.cons_append, walk_name hskip hup hsize, hfound] at hwalk
    cases hwalk
  | case6 links start piece pieces hskip hup hsize hfound ih =>
    rw [List.cons_append, walk_name hskip hup hsize, hfound] at hwalk
    obtain ⟨left, hleft⟩ := ih hwalk
    refine ⟨left, fun rest => ?_⟩
    rw [List.cons_append, walk_name hskip hup hsize, hfound]
    exact hleft rest
  | case7 links start piece hskip hup hsize content hfound =>
    rw [List.cons_append, walk_name hskip hup hsize, hfound] at hwalk
    cases hwalk
  | case8 links start piece pieces hskip hup hsize content hfound =>
    rw [List.cons_append, walk_name hskip hup hsize, hfound] at hwalk
    simp at hwalk
  | case9 start piece pieces hskip hup hsize target hfound =>
    rw [List.cons_append, walk_name hskip hup hsize, hfound] at hwalk
    cases hwalk
  | case10 start piece pieces hskip hup hsize target hfound links ih =>
    rw [List.cons_append, walk_name hskip hup hsize, hfound] at hwalk
    obtain ⟨left, hleft⟩ := ih (by simpa using hwalk)
    refine ⟨left, fun rest => ?_⟩
    rw [List.cons_append, walk_name hskip hup hsize, hfound, ← hleft rest]
    simp

end Walks

/-! ### Free places -/

section FreePlaces

variable {path : Path} {place : Place}

theorem pieces_of_lastPiece? {before : List String} {last : String}
    (hlast : lastPiece? path = some (before, last, false)) :
    path.pieces = before ++ [last] ∧ last ≠ "" := by
  simp only [lastPiece?] at hlast
  split at hlast
  · cases hlast
  · next piece pieces hdropped =>
    simp only [Option.some.injEq, Prod.mk.injEq] at hlast
    obtain ⟨rfl, rfl, hbare⟩ := hlast
    have hreversed : path.pieces.reverse = piece :: pieces := by
      cases hpieces : path.pieces.reverse with
      | nil => rw [hpieces] at hdropped; cases hdropped
      | cons first others =>
        rw [hpieces] at hbare hdropped
        have hfirst : ¬(first == "") = true := by simpa using hbare
        rw [List.dropWhile_cons_of_neg (p := fun piece => piece == "") hfirst] at hdropped
        exact hdropped
    constructor
    · rw [← List.reverse_reverse path.pieces, hreversed, List.reverse_cons]
    · rintro rfl
      rw [hreversed] at hbare
      simp at hbare

/-- A path names an entry when its last piece is a name without separators behind it, and the
    pieces before it lead to a directory. -/
theorem placeOf_eq_ok :
    tree.placeOf path = .ok place ↔ checkPath path = .ok () ∧ ∃ before last parent,
      lastPiece? path = some (before, last, false) ∧
      tree.walk linkLimit (tree.startOf path) (before ++ ["."]) = .ok parent ∧
      ¬(last = "." ∨ last = "..") ∧ ¬nameLimit < last.utf8ByteSize ∧
      place = parent ++ [last] := by
  unfold placeOf
  rw [bind_eq_ok]
  constructor
  · rintro ⟨_, hcheck, hplace⟩
    refine ⟨hcheck, ?_⟩
    split at hplace
    · cases hplace
    · next before last separated hlast =>
      obtain ⟨parent, hparent, hplace⟩ := bind_eq_ok.mp hplace
      split_ifs at hplace with hdots hseparated hsize
      cases hplace
      have hbare : separated = false := by simpa using hseparated
      exact ⟨before, last, parent, hbare ▸ hlast, mapError_eq_ok.mp hparent, hdots, hsize, rfl⟩
  · rintro ⟨hcheck, before, last, parent, hlast, hwalk, hdots, hsize, rfl⟩
    refine ⟨(), hcheck, ?_⟩
    simp only [hlast]
    refine bind_eq_ok.mpr ⟨parent, mapError_eq_ok.mpr hwalk, ?_⟩
    rw [if_neg hdots, if_neg Bool.false_ne_true, if_neg hsize]

theorem freePlace_eq_ok :
    tree.freePlace path = .ok place ↔ tree.placeOf path = .ok place ∧ tree.lookup? place = none := by
  unfold freePlace
  rw [bind_eq_ok]
  constructor
  · rintro ⟨found, hfound, hfree⟩
    split at hfree
    · cases hfree
    · next hnothing => cases hfree; exact ⟨hfound, hnothing⟩
  · rintro ⟨hplace, hnothing⟩
    exact ⟨place, hplace, by rw [hnothing]⟩

theorem freePlace_of_taken {entry : Entry} (hplace : tree.placeOf path = .ok place)
    (hentry : tree.lookup? place = some entry) :
    tree.freePlace path = .error (.system .alreadyThere) := by
  rw [freePlace, hplace]
  simp only [bind, Except.bind, hentry]

/-- What a path names is found by one more step from the directory that holds it. -/
theorem locate_of_placeOf (hplace : tree.placeOf path = .ok place) :
    ∃ parent last left, place = parent ++ [last] ∧
      ¬(last = "" ∨ last = ".") ∧ last ≠ ".." ∧ ¬nameLimit < last.utf8ByteSize ∧
      tree.locate path = (tree.walk left parent [last]).mapError .system := by
  obtain ⟨hcheck, before, last, parent, hlast, hwalk, hdots, hsize, rfl⟩ :=
    placeOf_eq_ok.mp hplace
  obtain ⟨hpieces, hnamed⟩ := pieces_of_lastPiece? hlast
  obtain ⟨left, hleft⟩ := walk_parent hwalk
  have hskip : ¬(last = "" ∨ last = ".") := by
    rintro (hempty | hpoint)
    · exact hnamed hempty
    · exact hdots (.inl hpoint)
  refine ⟨parent, last, left, rfl, hskip, fun hup => hdots (.inr hup), hsize, ?_⟩
  rw [locate, hcheck, hpieces, ← hleft [last]]
  rfl

/-- A path with a free place names nothing, also when links are followed. -/
theorem not_names_of_freePlace (hfree : tree.freePlace path = .ok place) :
    tree.names path = false := by
  obtain ⟨hplace, hnothing⟩ := freePlace_eq_ok.mp hfree
  obtain ⟨parent, last, left, rfl, hskip, hup, hsize, hlocate⟩ := locate_of_placeOf hplace
  rw [names, hlocate, walk_name hskip hup hsize, hnothing]
  rfl

/-- A path names the file at its place. -/
theorem names_of_file {content : Bytes} (hplace : tree.placeOf path = .ok place)
    (hfile : tree.lookup? place = some (.file content)) : tree.names path = true := by
  obtain ⟨parent, last, left, rfl, hskip, hup, hsize, hlocate⟩ := locate_of_placeOf hplace
  rw [names, hlocate, walk_name hskip hup hsize, hfile]
  rfl

/-- A path still finds its place when an entry was made there. -/
theorem placeOf_put (hfree : tree.freePlace path = .ok place) (entry : Entry) :
    (tree.put place entry).placeOf path = .ok place := by
  obtain ⟨hplace, hnothing⟩ := freePlace_eq_ok.mp hfree
  obtain ⟨hcheck, before, last, parent, hlast, hwalk, hdots, hsize, heq⟩ :=
    placeOf_eq_ok.mp hplace
  exact placeOf_eq_ok.mpr
    ⟨hcheck, before, last, parent, hlast, walk_put hnothing entry hwalk, hdots, hsize, heq⟩

theorem locate_put (hfree : tree.freePlace path = .ok place) (content : Bytes) :
    (tree.put place (.file content)).locate path = .ok place := by
  have hnothing := (freePlace_eq_ok.mp hfree).2
  obtain ⟨parent, last, left, rfl, hskip, hup, hsize, hlocate⟩ :=
    locate_of_placeOf (placeOf_put hfree (.file content))
  rw [hlocate, walk_name hskip hup hsize,
    lookup?_put_same tree (ne_root_of_lookup?_eq_none hnothing)]
  rfl

theorem readBytes_put (hfree : tree.freePlace path = .ok place) (content : Bytes) :
    (tree.put place (.file content)).readBytes path = .ok content := by
  have hnothing := (freePlace_eq_ok.mp hfree).2
  have hthere : (tree.put place (.file content)).lookup? place = some (.file content) :=
    lookup?_put_same tree (ne_root_of_lookup?_eq_none hnothing) _
  rw [readBytes, locate_put hfree]
  simp only [bind, Except.bind, hthere]

end FreePlaces

end PlanScaffold.FileTree
