/-
  PlanScaffold/Proofs/FileTree/Walks.lean
  =======================================
  **Where a path leads, and what there is to read.**

  `FileTree.walk` follows a path by recursion.  Here the same is told by steps (`Moves`).  A walk is
  in some directory, with pieces still to go, and each step takes the first of them: over a piece
  that names nothing, up, into a directory, or along a link.  It ends (`Ends`) when it arrives, or
  when a name is missing, a file is in the way, too many links were followed or a name is too long.
  Every walk ends, in one way only, and `walk` computes it (`resolves_iff`).

  What there is to read at a path is then of one of three kinds.  It is a text (`HasText`), there
  is nothing (`IsMissing`), or something is there or on the way that cannot be read (`Refuses`).
-/
import Mathlib.Logic.Relation
import PlanScaffold.Proofs.FileTree.Resolution

namespace PlanScaffold.FileTree

/-- A walk under way: how many links it may still follow, the directory it is in, and the pieces it
    has still to go. -/
structure Walk where
  links : Nat
  place : Place
  pieces : List String

/-- A piece that is looked up as a name. -/
structure IsName (piece : String) : Prop where
  notSkipped : ¬(piece = "" ∨ piece = ".")
  notUp : piece ≠ ".."
  short : ¬nameLimit < piece.utf8ByteSize

section Relations

variable (tree : FileTree)

/-- One step of a walk. -/
inductive Moves : Walk → Walk → Prop where
  | skip {links : Nat} {place : Place} {piece : String} {rest : List String}
    (hskip : piece = "" ∨ piece = ".") :
    Moves ⟨links, place, piece :: rest⟩ ⟨links, place, rest⟩
  | up {links : Nat} {place : Place} {rest : List String} :
    Moves ⟨links, place, ".." :: rest⟩ ⟨links, place.dropLast, rest⟩
  | enter {links : Nat} {place : Place} {piece : String} {rest : List String}
    (hname : IsName piece) (hfound : tree.lookup? (place ++ [piece]) = some .directory) :
    Moves ⟨links, place, piece :: rest⟩ ⟨links, place ++ [piece], rest⟩
  | follow {links : Nat} {place : Place} {piece : String} {rest : List String} {target : Path}
    (hname : IsName piece) (hfound : tree.lookup? (place ++ [piece]) = some (.link target)) :
    Moves ⟨links + 1, place, piece :: rest⟩
      ⟨links, if target.isAbsolute then [] else place, target.pieces ++ rest⟩

/-- How a walk ends. -/
inductive Ends : Walk → Except SystemFault Place → Prop where
  | inDirectory {links : Nat} {place : Place} : Ends ⟨links, place, []⟩ (.ok place)
  | atFile {links : Nat} {place : Place} {piece : String} {content : Bytes} (hname : IsName piece)
    (hfound : tree.lookup? (place ++ [piece]) = some (.file content)) :
    Ends ⟨links, place, [piece]⟩ (.ok (place ++ [piece]))
  | missing {links : Nat} {place : Place} {piece : String} {rest : List String}
    (hname : IsName piece) (hfound : tree.lookup? (place ++ [piece]) = none) :
    Ends ⟨links, place, piece :: rest⟩ (.error .noEntry)
  | blocked {links : Nat} {place : Place} {piece : String} {rest : List String} {content : Bytes}
    (hname : IsName piece) (hfound : tree.lookup? (place ++ [piece]) = some (.file content))
    (hrest : rest ≠ []) : Ends ⟨links, place, piece :: rest⟩ (.error .notADirectory)
  | looping {place : Place} {piece : String} {rest : List String} {target : Path}
    (hname : IsName piece) (hfound : tree.lookup? (place ++ [piece]) = some (.link target)) :
    Ends ⟨0, place, piece :: rest⟩ (.error .linkLoop)
  | tooLong {links : Nat} {place : Place} {piece : String} {rest : List String}
    (hskip : ¬(piece = "" ∨ piece = ".")) (hup : piece ≠ "..")
    (hsize : nameLimit < piece.utf8ByteSize) :
    Ends ⟨links, place, piece :: rest⟩ (.error .nameTooLong)

/-- The walk along the path leads there, or fails for this reason. -/
def Resolves (path : Path) (result : Except SystemFault Place) : Prop :=
  ∃ last, Relation.ReflTransGen tree.Moves ⟨linkLimit, tree.startOf path, path.pieces⟩ last ∧
    tree.Ends last result

end Relations

/-- The system takes the path. -/
structure Usable (path : Path) : Prop where
  noNul : '\x00' ∉ path.text.toList
  notEmpty : path.text ≠ ""
  short : path.text.utf8ByteSize < pathLimit

section Readings

variable (tree : FileTree) (path : Path)

/-- The path leads to a file with this text. -/
inductive HasText (text : String) : Prop where
  | file {place : Place} (husable : Usable path) (hplace : tree.Resolves path (.ok place))
    (hfound : tree.lookup? place = some (.file (Utf8.encode text)))

/-- The path leads nowhere: it is empty, a name on the way is not there, or in the end there is
    neither a file nor a directory. -/
inductive IsMissing : Prop where
  | empty (hempty : path.text = "")
  | name (husable : Usable path) (hname : tree.Resolves path (.error .noEntry))
  | nothing {place : Place} (husable : Usable path) (hplace : tree.Resolves path (.ok place))
    (hfile : ∀ content, tree.lookup? place ≠ some (.file content))
    (hdirectory : tree.lookup? place ≠ some .directory)

/-- What the path leads to cannot be read, or it does not lead anywhere for a reason other than that
    something is missing. -/
inductive Refuses : IoFault → Prop where
  | notText {place : Place} {content : Bytes} (husable : Usable path)
    (hplace : tree.Resolves path (.ok place))
    (hfound : tree.lookup? place = some (.file content))
    (htext : ∀ text, content ≠ Utf8.encode text) : Refuses .notUtf8
  | directory {place : Place} (husable : Usable path) (hplace : tree.Resolves path (.ok place))
    (hfound : tree.lookup? place = some .directory) : Refuses (.system .isADirectory)
  | blocked (husable : Usable path) (hblocked : tree.Resolves path (.error .notADirectory)) :
    Refuses (.system .notADirectory)
  | looping (husable : Usable path) (hlooping : tree.Resolves path (.error .linkLoop)) :
    Refuses (.system .linkLoop)
  | longName (husable : Usable path) (hname : tree.Resolves path (.error .nameTooLong)) :
    Refuses (.system .nameTooLong)
  | longPath (hnul : '\x00' ∉ path.text.toList) (hsize : pathLimit ≤ path.text.utf8ByteSize) :
    Refuses (.system .nameTooLong)
  | nul (hnul : '\x00' ∈ path.text.toList) : Refuses .nulInPath

end Readings

variable {tree : FileTree}

/-! ### Walks end, each in one way -/

theorem Moves.walk_eq {before after : Walk} (hmoves : tree.Moves before after) :
    tree.walk before.links before.place before.pieces =
      tree.walk after.links after.place after.pieces := by
  cases hmoves with
  | skip hskip => exact walk_skip hskip
  | up => exact walk_up
  | enter hname hfound => rw [walk_name hname.notSkipped hname.notUp hname.short, hfound]
  | follow hname hfound => rw [walk_name hname.notSkipped hname.notUp hname.short, hfound]

theorem walk_eq_of_reaches {before after : Walk}
    (hreaches : Relation.ReflTransGen tree.Moves before after) :
    tree.walk before.links before.place before.pieces =
      tree.walk after.links after.place after.pieces := by
  induction hreaches with
  | refl => rfl
  | tail _ hmoves ih => exact ih.trans hmoves.walk_eq

theorem Ends.walk_eq {last : Walk} {result : Except SystemFault Place}
    (hends : tree.Ends last result) : tree.walk last.links last.place last.pieces = result := by
  cases hends with
  | inDirectory => rw [walk]
  | atFile hname hfound =>
    rw [walk_name hname.notSkipped hname.notUp hname.short, hfound]
    rfl
  | missing hname hfound => rw [walk_name hname.notSkipped hname.notUp hname.short, hfound]
  | blocked hname hfound hrest =>
    rw [walk_name hname.notSkipped hname.notUp hname.short, hfound]
    exact if_neg hrest
  | looping hname hfound => rw [walk_name hname.notSkipped hname.notUp hname.short, hfound]
  | tooLong hskip hup hsize => rw [walk, if_neg hskip, if_neg hup, if_pos hsize]

/-- Every walk ends. -/
theorem exists_ends (tree : FileTree) (links : Nat) (start : Place) (pieces : List String) :
    ∃ last, Relation.ReflTransGen tree.Moves ⟨links, start, pieces⟩ last ∧
      tree.Ends last (tree.walk links start pieces) := by
  fun_induction walk tree links start pieces with
  | case1 links start => exact ⟨_, .refl, .inDirectory⟩
  | case2 links start piece rest hskip ih =>
    obtain ⟨last, hreaches, hends⟩ := ih
    exact ⟨last, hreaches.head (.skip hskip), hends⟩
  | case3 links start rest _ ih =>
    obtain ⟨last, hreaches, hends⟩ := ih
    exact ⟨last, hreaches.head .up, hends⟩
  | case4 links start piece rest hskip hup hsize => exact ⟨_, .refl, .tooLong hskip hup hsize⟩
  | case5 links start piece rest hskip hup hsize hfound =>
    exact ⟨_, .refl, .missing ⟨hskip, hup, hsize⟩ hfound⟩
  | case6 links start piece rest hskip hup hsize hfound ih =>
    obtain ⟨last, hreaches, hends⟩ := ih
    exact ⟨last, hreaches.head (.enter ⟨hskip, hup, hsize⟩ hfound), hends⟩
  | case7 links start piece hskip hup hsize content hfound =>
    exact ⟨_, .refl, .atFile ⟨hskip, hup, hsize⟩ hfound⟩
  | case8 links start piece rest hskip hup hsize content hfound hrest =>
    exact ⟨_, .refl, .blocked ⟨hskip, hup, hsize⟩ hfound hrest⟩
  | case9 start piece rest hskip hup hsize target hfound =>
    exact ⟨_, .refl, .looping ⟨hskip, hup, hsize⟩ hfound⟩
  | case10 start piece rest hskip hup hsize target hfound links ih =>
    obtain ⟨last, hreaches, hends⟩ := ih
    exact ⟨last, hreaches.head (.follow ⟨hskip, hup, hsize⟩ hfound), hends⟩

/-- **Walking by steps comes to what the recursion computes.** -/
theorem resolves_iff {path : Path} {result : Except SystemFault Place} :
    tree.Resolves path result ↔ tree.walk linkLimit (tree.startOf path) path.pieces = result := by
  constructor
  · rintro ⟨last, hreaches, hends⟩
    exact (walk_eq_of_reaches hreaches).trans hends.walk_eq
  · rintro rfl
    exact exists_ends tree linkLimit (tree.startOf path) path.pieces

/-! ### Readings are exclusive, and there is always one -/

section Readings

variable {path : Path} {place : Place} {text : String} {cause : IoFault}

theorem checkPath_of_usable (husable : Usable path) : checkPath path = .ok () := by
  have hnul : ¬(path.text.toList.contains '\x00') = true := by simpa using husable.noNul
  have hshort : ¬pathLimit ≤ path.text.utf8ByteSize := Nat.not_le.mpr husable.short
  rw [checkPath, if_neg hnul, if_neg husable.notEmpty, if_neg hshort]

theorem locate_of_resolves {result : Except SystemFault Place} (husable : Usable path)
    (hresolves : tree.Resolves path result) : tree.locate path = result.mapError .system := by
  rw [locate, checkPath_of_usable husable, ← resolves_iff.mp hresolves]
  rfl

theorem readText_of_unusable (hcheck : checkPath path = .error cause) :
    tree.readText path = .error cause := by
  rw [readText, readBytes, locate, hcheck]
  rfl

theorem readText_of_fault {fault : SystemFault} (husable : Usable path)
    (hfault : tree.Resolves path (.error fault)) : tree.readText path = .error (.system fault) := by
  rw [readText, readBytes, locate_of_resolves husable hfault]
  rfl

theorem readBytes_of_place (husable : Usable path) (hplace : tree.Resolves path (.ok place)) :
    tree.readBytes path =
      match tree.lookup? place with
      | some (.file content) => .ok content
      | some .directory => .error (.system .isADirectory)
      | _ => .error (.system .noEntry) := by
  rw [readBytes, locate_of_resolves husable hplace]
  rfl

theorem readText_of_file {content : Bytes} (husable : Usable path)
    (hplace : tree.Resolves path (.ok place))
    (hfound : tree.lookup? place = some (.file content)) :
    tree.readText path =
      match Utf8.decode? content with
      | some text => .ok text
      | none => .error .notUtf8 := by
  rw [readText, readBytes_of_place husable hplace, hfound]
  rfl

theorem HasText.readText_eq (htext : tree.HasText path text) : tree.readText path = .ok text := by
  obtain ⟨husable, hplace, hfound⟩ := htext
  rw [readText_of_file husable hplace hfound, Utf8.decode?_encode]

theorem IsMissing.readText_eq (hmissing : tree.IsMissing path) :
    tree.readText path = .error (.system .noEntry) := by
  cases hmissing with
  | empty hempty =>
    have hnul : ¬(path.text.toList.contains '\x00') = true := by simp [hempty]
    refine readText_of_unusable ?_
    rw [checkPath, if_neg hnul, if_pos hempty]
  | name husable hname => exact readText_of_fault husable hname
  | @nothing place husable hplace hfile hdirectory =>
    rw [readText, readBytes_of_place husable hplace]
    rcases hfound : tree.lookup? place with _ | content | _ | target
    · rfl
    · exact absurd hfound (hfile content)
    · exact absurd hfound hdirectory
    · rfl

theorem Refuses.readText_eq (hrefuses : tree.Refuses path cause) :
    tree.readText path = .error cause := by
  cases hrefuses with
  | notText husable hplace hfound htext =>
    have hdecode : Utf8.decode? _ = none :=
      Option.eq_none_iff_forall_ne_some.mpr fun text hsome =>
        htext text (Utf8.decode?_eq_some_iff.mp hsome)
    rw [readText_of_file husable hplace hfound, hdecode]
  | directory husable hplace hfound =>
    rw [readText, readBytes_of_place husable hplace, hfound]
    rfl
  | blocked husable hblocked => exact readText_of_fault husable hblocked
  | looping husable hlooping => exact readText_of_fault husable hlooping
  | longName husable hname => exact readText_of_fault husable hname
  | longPath hnul hsize =>
    have hempty : path.text ≠ "" := by
      intro hempty
      rw [hempty] at hsize
      exact absurd hsize (by decide)
    refine readText_of_unusable ?_
    rw [checkPath, if_neg (by simpa using hnul), if_neg hempty, if_pos hsize]
  | nul hnul =>
    refine readText_of_unusable ?_
    rw [checkPath, if_pos (by simpa using hnul)]

theorem Refuses.kind_ne_notFound (hrefuses : tree.Refuses path cause) : cause.kind ≠ .notFound := by
  cases hrefuses <;> decide

theorem hasText_or_isMissing_or_refuses (tree : FileTree) (path : Path) :
    (∃ text, tree.HasText path text) ∨ tree.IsMissing path ∨ ∃ cause, tree.Refuses path cause := by
  by_cases hnul : '\x00' ∈ path.text.toList
  · exact .inr (.inr ⟨_, .nul hnul⟩)
  by_cases hempty : path.text = ""
  · exact .inr (.inl (.empty hempty))
  by_cases hsize : pathLimit ≤ path.text.utf8ByteSize
  · exact .inr (.inr ⟨_, .longPath hnul hsize⟩)
  have husable : Usable path := ⟨hnul, hempty, Nat.not_le.mp hsize⟩
  obtain ⟨last, hreaches, hends⟩ := exists_ends tree linkLimit (tree.startOf path) path.pieces
  have hresolves : tree.Resolves path _ := ⟨last, hreaches, hends⟩
  cases hresult : tree.walk linkLimit (tree.startOf path) path.pieces with
  | ok place =>
    rw [hresult] at hresolves
    by_cases hdirectory : tree.lookup? place = some .directory
    · exact .inr (.inr ⟨_, .directory husable hresolves hdirectory⟩)
    by_cases hfile : ∃ content, tree.lookup? place = some (.file content)
    · obtain ⟨content, hcontent⟩ := hfile
      by_cases htext : ∃ text, content = Utf8.encode text
      · obtain ⟨text, rfl⟩ := htext
        exact .inl ⟨text, husable, hresolves, hcontent⟩
      · exact .inr (.inr ⟨_, .notText husable hresolves hcontent (not_exists.mp htext)⟩)
    · exact .inr (.inl (.nothing husable hresolves (not_exists.mp hfile) hdirectory))
  | error fault =>
    rw [hresult] at hends hresolves
    cases hends with
    | missing => exact .inr (.inl (.name husable hresolves))
    | blocked => exact .inr (.inr ⟨_, .blocked husable hresolves⟩)
    | looping => exact .inr (.inr ⟨_, .looping husable hresolves⟩)
    | tooLong => exact .inr (.inr ⟨_, .longName husable hresolves⟩)

/-- Reading says that nothing was found exactly where something is missing. -/
theorem isMissing_iff :
    tree.IsMissing path ↔ ∃ cause, tree.readText path = .error cause ∧ cause.kind = .notFound := by
  refine ⟨fun hmissing => ⟨_, hmissing.readText_eq, rfl⟩, ?_⟩
  rintro ⟨cause, hread, hkind⟩
  rcases hasText_or_isMissing_or_refuses tree path with ⟨text, htext⟩ | hmissing | ⟨other, hrefuses⟩
  · rw [htext.readText_eq] at hread
    cases hread
  · exact hmissing
  · rw [hrefuses.readText_eq] at hread
    cases hread
    exact absurd hkind hrefuses.kind_ne_notFound

end Readings

end PlanScaffold.FileTree
