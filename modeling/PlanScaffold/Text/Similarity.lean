/-
  PlanScaffold/Text/Similarity.lean
  =================================
  **How alike two words are.**

  Two words share a character where both have it at about the same place.  They are the more
  alike, the greater the part of either that is shared, and the fewer of the shared
  characters stand in another order.  `similarity` is the mean of these three parts: 1 for
  equal words, 0 for words that share nothing.

  Each quotient and each sum is rounded as in binary floating-point arithmetic, since a measure
  that is compared with a bound depends on its last digit.
-/
import PlanScaffold.Decimal.Binary64

namespace PlanScaffold.Text

/-- How far apart the places of a shared character may be in words of these lengths. -/
def reach (length other : Nat) : Nat := max length other / 2 - 1

/-- The places of `target` whose characters are shared with a word, in the order of the word, of
    which the first `place` characters have been seen.  Each character of the word takes
    the first place that holds the same one, is within reach and is not taken. -/
def sharedPlaces (reach : Nat) (target : List Char) (place : Nat) (taken : List Nat) :
    List Char → List Nat
  | [] => taken.reverse
  | c :: rest =>
    let candidates := (List.range (min target.length (place + reach + 1))).drop (place - reach)
    match candidates.find? fun j => target[j]? == some c && !taken.contains j with
    | some j => sharedPlaces reach target (place + 1) (j :: taken) rest
    | none => sharedPlaces reach target (place + 1) taken rest

/-- How many of the shared characters are not the ones that stand there in the order of
    `target`. -/
def displaced (target : List Char) (places : List Nat) : Nat :=
  let inOrder := (List.range target.length).filter places.contains
  (places.zip inOrder).countP fun (j, k) => target[j]? != target[k]?

/-- How alike two words are.  Two characters that change places count as one fault. -/
def similarity (word target : String) : Rat :=
  let characters := word.toList
  let others := target.toList
  let places := sharedPlaces (reach characters.length others.length) others 0 [] characters
  let shared := places.length
  let faults := displaced others places / 2
  let part (n total : Nat) : Rat := Decimal.Binary64.rounded (n / total)
  if shared = 0 then 0
  else
    let either :=
      Decimal.Binary64.rounded (part shared characters.length + part shared others.length)
    let sum := Decimal.Binary64.rounded (either + part (shared - faults) shared)
    Decimal.Binary64.rounded (sum / 3)

end PlanScaffold.Text
