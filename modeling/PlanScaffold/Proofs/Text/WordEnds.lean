/-
  PlanScaffold/Proofs/Text/WordEnds.lean
  ======================================
  **Title case of a text in two parts.**

  Of all that stands before a text, title case remembers only whether the last character there
  continues a word (`titleFrom_append`).  Behind a character that ends a word, or behind nothing, a
  text is in title case as if it stood alone.  Otherwise a word goes on into it, and its characters
  are lowered one by one up to the first one that ends a word and including that one; only what is
  left is in title case as if it stood alone (`Casing.title_apply_append`).
-/
import Mathlib.Data.List.Infix
import Mathlib.Order.WellFounded
import PlanScaffold.Answers

namespace PlanScaffold

namespace Text

/-- What the last character of a text says of the character behind it: whether that stands inside a
    word.  An empty text does not say. -/
def lastContinues? (text : List Char) : Option Bool := text.getLast?.map continuesWord

theorem lastContinues?_cons (c : Char) (rest : List Char) :
    lastContinues? (c :: rest) = some ((lastContinues? rest).getD (continuesWord c)) := by
  rw [lastContinues?, lastContinues?, List.getLast?_cons, Option.map_some, Option.getD_map]

theorem lastContinues?_concat (front : List Char) (c : Char) :
    lastContinues? (front ++ [c]) = some (continuesWord c) := by
  rw [lastContinues?, List.getLast?_concat, Option.map_some]

/-- **Title case of the second part depends on the last character of the first one only.** -/
theorem titleFrom_append (inWord : Bool) (first second : List Char) :
    titleFrom inWord (first ++ second) =
      titleFrom inWord first ++ titleFrom ((lastContinues? first).getD inWord) second := by
  induction first generalizing inWord with
  | nil => rfl
  | cons c rest ih =>
    rw [List.cons_append, titleFrom, ih, lastContinues?_cons, Option.getD_some, titleFrom,
      List.append_assoc]

/-- In the middle of a word, title case lowers one character at a time up to the end of the word. -/
theorem titleFrom_true_eq_flatMap {text : List Char}
    (hinside : ∀ c ∈ text.dropLast, continuesWord c = true) :
    titleFrom true text = text.flatMap lowercase := by
  induction text with
  | nil => rfl
  | cons c rest ih =>
    rw [titleFrom, if_pos rfl, List.flatMap_cons]
    congr 1
    cases rest with
    | nil => rfl
    | cons next rest =>
      rw [List.dropLast_cons_cons, List.forall_mem_cons] at hinside
      rw [hinside.1]
      exact ih hinside.2

/-! ### The rest of a word -/

/-- What a text has of a word that began before it, and what is behind that.  The rest of the word
    is the shortest prefix whose last character ends a word, or the whole text if there is no such
    prefix. -/
inductive WordRest (text : List Char) : List Char → List Char → Prop where
  | ended {word behind : List Char} (hcut : text = word ++ behind)
      (hend : lastContinues? word = some false)
      (hshortest : ∀ part, part <+: text → lastContinues? part = some false →
        word.length ≤ part.length) :
      WordRest text word behind
  | unended (hnone : ∀ part, part <+: text → lastContinues? part ≠ some false) :
      WordRest text text []

variable {text word behind : List Char}

theorem exists_wordRest (text : List Char) : ∃ word behind, WordRest text word behind := by
  by_cases hsome : ∃ part, part <+: text ∧ lastContinues? part = some false
  · obtain ⟨word, ⟨⟨behind, hcut⟩, hend⟩, hmin⟩ :=
      WellFounded.has_min (measure List.length).wf
        {part | part <+: text ∧ lastContinues? part = some false} hsome
    refine ⟨word, behind, .ended hcut.symm hend ?_⟩
    intro part hpart hends
    exact Nat.le_of_not_lt (hmin part ⟨hpart, hends⟩)
  · refine ⟨text, [], .unended ?_⟩
    intro part hpart hends
    exact hsome ⟨part, hpart, hends⟩

theorem WordRest.append_eq (hrest : WordRest text word behind) : word ++ behind = text := by
  cases hrest with
  | ended hcut => exact hcut.symm
  | unended => exact List.append_nil text

theorem WordRest.unique {other last : List Char} (hrest : WordRest text word behind)
    (hother : WordRest text other last) : word = other ∧ behind = last := by
  cases hrest with
  | ended hcut hend hshortest =>
    cases hother with
    | ended hcut' hend' hshortest' =>
      have hle := hshortest other ⟨last, hcut'.symm⟩ hend'
      have hge := hshortest' word ⟨behind, hcut.symm⟩ hend
      exact List.append_inj (hcut.symm.trans hcut') (Nat.le_antisymm hle hge)
    | unended hnone => exact (hnone word ⟨behind, hcut.symm⟩ hend).elim
  | unended hnone =>
    cases hother with
    | ended hcut' hend' => exact (hnone other ⟨last, hcut'.symm⟩ hend').elim
    | unended => exact ⟨rfl, rfl⟩

/-- Before its end, the rest of a word has no character that ends a word. -/
theorem WordRest.continues_of_mem_dropLast (hrest : WordRest text word behind) {c : Char}
    (hc : c ∈ word.dropLast) : continuesWord c = true := by
  rw [← Bool.not_eq_false]
  intro hends
  -- the prefix up to this character would be the rest of the word, and it is shorter
  obtain ⟨front, back, hword⟩ := List.append_of_mem hc
  have hpart : front ++ [c] <+: word.dropLast := ⟨back, by simp [hword]⟩
  have hclosed : lastContinues? (front ++ [c]) = some false := by
    rw [lastContinues?_concat, hends]
  have hprefix : front ++ [c] <+: text :=
    hpart.trans ((List.dropLast_prefix word).trans ⟨behind, hrest.append_eq⟩)
  cases hrest with
  | ended hcut hend hshortest =>
    have hle := hshortest _ hprefix hclosed
    have hlt := hpart.length_le
    have hpos := List.length_pos_of_mem hc
    rw [List.length_dropLast] at hlt hpos
    omega
  | unended hnone => exact hnone _ hprefix hclosed

theorem WordRest.titleFrom_true_eq (hrest : WordRest text word behind) :
    titleFrom true text = word.flatMap lowercase ++ titleText behind := by
  have hlowered : titleFrom true word = word.flatMap lowercase :=
    titleFrom_true_eq_flatMap fun _ => hrest.continues_of_mem_dropLast
  rw [← hrest.append_eq, titleFrom_append, hlowered]
  cases hrest with
  | ended hcut hend => rw [hend, Option.getD_some, titleText]
  | unended => rfl

/-! ### Two parts of a text -/

theorem titleText_singleton (c : Char) : titleText [c] = titlecase c :=
  List.append_nil (titlecase c)

theorem titleText_append_of_ne {first : List Char} (hends : lastContinues? first ≠ some true)
    (second : List Char) : titleText (first ++ second) = titleText first ++ titleText second := by
  have hflag : (lastContinues? first).getD false = false := by
    cases hlast : lastContinues? first with
    | none => rfl
    | some continues =>
      rw [hlast] at hends
      simpa using hends
  rw [titleText, titleFrom_append, hflag]
  rfl

theorem WordRest.titleText_append {first : List Char} (hrest : WordRest text word behind)
    (hcontinues : lastContinues? first = some true) :
    titleText (first ++ text) = titleText first ++ word.flatMap lowercase ++ titleText behind := by
  rw [titleText, titleFrom_append, hcontinues, Option.getD_some, hrest.titleFrom_true_eq,
    List.append_assoc]
  rfl

end Text

/-! ### Two parts of a token -/

namespace Casing

open Text

/-- **Title case of a text in two parts.**  If the first part is empty or its last character ends a
    word, each part is in title case as if it stood alone.  If its last character continues a word,
    the rest of this word in the second part is lowered one character at a time, and what is behind
    it is in title case as if it stood alone.  With the form of a single character, this settles
    the title case of every text. -/
theorem title_apply_append (first second : String) :
    (lastContinues? first.toList ≠ some true →
      title.apply (first ++ second) = title.apply first ++ title.apply second) ∧
    (lastContinues? first.toList = some true →
      ∃ word behind : String, WordRest second.toList word.toList behind.toList ∧
        (∀ other last, WordRest second.toList other last →
          other = word.toList ∧ last = behind.toList) ∧
        title.apply (first ++ second) =
          title.apply first ++ String.ofList (word.toList.flatMap lowercase) ++
            title.apply behind) ∧
    ∀ c : Char, title.apply (String.singleton c) = String.ofList (titlecase c) := by
  refine ⟨?_, ?_, ?_⟩
  · intro hends
    simp only [apply, onText, String.toList_append]
    rw [titleText_append_of_ne hends, String.ofList_append]
  · intro hcontinues
    obtain ⟨word, behind, hrest⟩ := exists_wordRest second.toList
    refine ⟨String.ofList word, String.ofList behind, ?_, ?_, ?_⟩
    · rw [String.toList_ofList, String.toList_ofList]
      exact hrest
    · intro other last hother
      rw [String.toList_ofList, String.toList_ofList]
      exact hother.unique hrest
    · simp only [apply, onText, String.toList_append, String.toList_ofList]
      rw [hrest.titleText_append hcontinues, String.ofList_append, String.ofList_append]
  · intro c
    rw [apply, onText, String.toList_singleton, titleText_singleton]

/-- A first part whose last character is an apostrophe, and one whose last character is a digraph;
    the form of sharp s tells where the second part begins a word. -/
theorem title_apply_append_digraph :
    (lastContinues? "a'".toList ≠ some true ∧
      title.apply ("a'" ++ "ßt") = title.apply "a'" ++ title.apply "ßt") ∧
    lastContinues? "ǆ".toList = some true ∧
      title.apply ("ǆ" ++ "ßΣ'ßt") = title.apply "ǆ" ++ "ßσ'" ++ title.apply "ßt" := by
  have hends : lastContinues? "a'".toList ≠ some true := by decide +kernel
  have hcontinues : lastContinues? "ǆ".toList = some true := by decide +kernel
  have hlowered : String.ofList ("ßΣ'".toList.flatMap lowercase) = "ßσ'" := by decide +kernel
  have hrest : WordRest "ßΣ'ßt".toList "ßΣ'".toList "ßt".toList := by
    refine .ended (by decide) (by decide +kernel) ?_
    intro part hpart
    rw [← List.mem_inits] at hpart
    revert part
    decide +kernel
  obtain ⟨word, behind, -, hunique, hcase⟩ := (title_apply_append "ǆ" "ßΣ'ßt").2.1 hcontinues
  obtain ⟨hword, hbehind⟩ := hunique _ _ hrest
  rw [String.toList_inj] at hword hbehind
  rw [← hword, ← hbehind, hlowered] at hcase
  exact ⟨⟨hends, (title_apply_append "a'" "ßt").1 hends⟩, hcontinues, hcase⟩

end Casing

end PlanScaffold
