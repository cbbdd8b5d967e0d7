/-
  PlanScaffold/Text/CharSet.lean
  ==============================
  **Sets of characters as stretches of code points.**

  The character properties this library needs (white space, letter case, what may
  be printed bare) are sets of some hundred stretches of code points.  A stretch
  has a stride, because capital and small letters alternate in much of Unicode.

  A law about every character of a set is a law about every member of every
  stretch, and there are finitely many of those (`Stretch.mem_members_of_contains`).

  The smallest of these sets is that of the *blank* characters.  An answer that is typed at a prompt
  is read without the blanks at its two ends.
-/
namespace PlanScaffold.Text

/-! ### Stretches -/

/-- `count` code points: `first`, and each further one `stride` above the one before. -/
structure Stretch where
  first : Nat
  count : Nat
  stride : Nat
deriving DecidableEq, Repr

/-- Whether `n` is in the stretch.  The comparisons are those of `Nat` itself, so that laws about
    whole tables can be evaluated. -/
def Stretch.contains (s : Stretch) (n : Nat) : Bool :=
  s.first.ble n && ((n - s.first) % s.stride).beq 0 && ((n - s.first) / s.stride).blt s.count

def Stretch.members (s : Stretch) : List Nat :=
  (List.range s.count).map fun k => s.first + s.stride * k

theorem Stretch.mem_members_of_contains {s : Stretch} {n : Nat} (hcontains : s.contains n = true) :
    n ∈ s.members := by
  simp only [contains, Bool.and_eq_true] at hcontains
  obtain ⟨⟨habove, haligned⟩, hinside⟩ := hcontains
  have hfirst : s.first ≤ n := Nat.le_of_ble_eq_true habove
  have hstride : (n - s.first) % s.stride = 0 := Nat.eq_of_beq_eq_true haligned
  have hcount : (n - s.first) / s.stride < s.count := Nat.blt_eq.mp hinside
  refine List.mem_map.mpr ⟨(n - s.first) / s.stride, List.mem_range.mpr hcount, ?_⟩
  have hparts := Nat.div_add_mod (n - s.first) s.stride
  omega

/-- A set of characters, as the stretches that cover it. -/
abbrev CharSet := List Stretch

def CharSet.has (set : CharSet) (c : Char) : Bool :=
  List.any set fun s => s.contains c.toNat

/-! ### Blanks -/

/-- The characters with the property White_Space. -/
def blanks : CharSet :=
  [⟨0x9, 5, 1⟩, ⟨0x20, 1, 1⟩, ⟨0x85, 1, 1⟩, ⟨0xA0, 1, 1⟩, ⟨0x1680, 1, 1⟩, ⟨0x2000, 11, 1⟩,
   ⟨0x2028, 2, 1⟩, ⟨0x202F, 1, 1⟩, ⟨0x205F, 1, 1⟩, ⟨0x3000, 1, 1⟩]

def isBlank (c : Char) : Bool := blanks.has c

def trimStart (text : List Char) : List Char := text.dropWhile isBlank

def trimEnd (text : List Char) : List Char := (text.reverse.dropWhile isBlank).reverse

def trim (text : List Char) : List Char := trimEnd (trimStart text)

end PlanScaffold.Text
