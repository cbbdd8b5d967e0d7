/-
  PlanScaffold/Decimal/Shortest.lean
  ==================================
  **The shortest decimal that reads back.**

  A finite number is the nearest one to every decimal of an interval around it.  For one,
  two, … digits, the two neighbours of the number on that decimal grid are tried;
  the first grid with a neighbour in the interval wins.  Of two such neighbours the
  nearer is taken, and of two equally near ones the greater.

  `Binary64.text` writes that decimal in full, without an exponent and with a point.
-/
import PlanScaffold.Decimal.Binary64

namespace PlanScaffold.Decimal

/-- The decimals that denote one number: those between the ends, and the ends
    themselves if the significand is even. -/
structure Interval where
  low : Rat
  high : Rat
  closed : Bool
deriving DecidableEq, Repr

/-- Whether a decimal lies in the interval. -/
def Interval.holds (interval : Interval) (x : Rat) : Bool :=
  if interval.closed then interval.low ≤ x && x ≤ interval.high
  else interval.low < x && x < interval.high

/-- The interval of `significand · 2^exponent`: half way to its two neighbours, of which the
    lower is nearer where the exponent steps. -/
def Interval.around (significand : Nat) (exponent : Int) : Interval :=
  let unit := (2 : Rat) ^ exponent
  let value := significand * unit
  let below :=
    if significand = Binary64.fullSignificand ∧ Binary64.minExponent < exponent
    then unit / 4 else unit / 2
  { low := value - below, high := value + unit / 2, closed := significand % 2 == 0 }

/-- How many places the whole part of the positive number `x` has; below 1, how many zeros follow
    the point, as a negative number. -/
def wholePlaces (x : Rat) : Int :=
  let scaled := (x * (10 : Rat) ^ Binary64.decimalReach).floor.toNat
  (Nat.toDigits 10 scaled).length - Binary64.decimalReach

/-- The better neighbour of `x` among the multiples of `unit`, if the interval holds one. -/
def gridNeighbour? (interval : Interval) (x unit : Rat) : Option Nat :=
  let lower := (x / unit).floor.toNat
  let upper := lower + 1
  match interval.holds (lower * unit), interval.holds (upper * unit) with
  | false, false => none
  | true, false => some lower
  | false, true => some upper
  | true, true => some (if x - lower * unit < upper * unit - x then lower else upper)

/-- The shortest decimal `digits · 10^exponent` that denotes the positive number
    `significand · 2^exponent`; seventeen digits always suffice. -/
def shortest (significand : Nat) (exponent : Int) : Nat × Int :=
  let x := significand * (2 : Rat) ^ exponent
  let interval := Interval.around significand exponent
  let places := wholePlaces x
  let tries := (List.range 17).findSome? fun (count : Nat) =>
    let power := places - (count + 1)
    (gridNeighbour? interval x ((10 : Rat) ^ power)).map fun digits =>
      -- ten units of a grid are one unit of the next coarser grid
      if digits % 10 = 0 then (digits / 10, power + 1) else (digits, power)
  tries.getD (significand, exponent)

/-- `digits · 10^exponent` in full, with a point. -/
def positional (digits : Nat) (exponent : Int) : String :=
  let figures := Nat.toDigits 10 digits
  if 0 ≤ exponent then
    String.ofList (figures ++ List.replicate exponent.toNat '0' ++ ['.', '0'])
  else
    let behind := exponent.natAbs
    let padded := List.replicate (behind + 1 - figures.length) '0' ++ figures
    let whole := padded.length - behind
    String.ofList (padded.take whole ++ '.' :: padded.drop whole)

/-- The text of a number: the shortest decimal that denotes it, in full. -/
def Binary64.text : Binary64 → String
  | .finite negative significand exponent =>
    let sign := if negative then "-" else ""
    if significand = 0 then sign ++ "0.0"
    else
      let (digits, power) := shortest significand exponent
      sign ++ positional digits power
  | .infinite negative => if negative then "-inf" else "inf"
  | .notANumber => "NaN"

end PlanScaffold.Decimal
