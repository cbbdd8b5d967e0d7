/-
  PlanScaffold/Decimal/Binary64.lean
  ==================================
  **Binary floating-point numbers, read from decimals.**

  A finite number is `± significand · 2^exponent`.  A decimal denotes the nearest
  such number, of two equally near ones the one with the even significand; a decimal
  that rounds beyond the largest finite number denotes an infinity.  The
  arithmetic is exact, on rational numbers.
-/
namespace PlanScaffold.Decimal

/-- A number of the format binary64.  A finite number has the least exponent that its
    significand, below `2^53`, allows. -/
inductive Binary64 where
  | finite (negative : Bool) (significand : Nat) (exponent : Int)
  | infinite (negative : Bool)
  | notANumber
deriving DecidableEq, Repr

namespace Binary64

/-- Where significands end: they have 53 bits. -/
def significandLimit : Nat := 0x20000000000000

/-- The least significand with all its bits. -/
def fullSignificand : Nat := 0x10000000000000

def minExponent : Int := -1074

def maxExponent : Int := 971

/-- The whole number nearest to `x`; a half goes to the even neighbour. -/
def roundHalfEven (x : Rat) : Int :=
  let below := x.floor
  let excess := x - below
  if excess < 1 / 2 then below
  else if 1 / 2 < excess then below + 1
  else if below % 2 = 0 then below
  else below + 1

/-- The exponent of the greatest power of two that is at most the positive number `x`. -/
def binaryLog (x : Rat) : Int :=
  let estimate : Int := (x.num.natAbs.log2 : Int) - (x.den.log2 : Int)
  if (2 : Rat) ^ estimate ≤ x then estimate else estimate - 1

/-- The significand and the exponent of the number nearest to `x`, which is not negative, as if
    exponents had no upper limit. -/
def nearest (x : Rat) : Nat × Int :=
  let exponent := max minExponent (binaryLog x - 52)
  let significand := (roundHalfEven (x / (2 : Rat) ^ exponent)).toNat
  if significand = significandLimit then (fullSignificand, exponent + 1)
  else (significand, exponent)

/-- The number `x`, which is not negative, rounded to the precision of the format. -/
def rounded (x : Rat) : Rat :=
  let (significand, exponent) := nearest x
  significand * (2 : Rat) ^ exponent

/-- The number nearest to `x`, which is positive, with a sign put before it. -/
def ofPositive (negative : Bool) (x : Rat) : Binary64 :=
  let (significand, exponent) := nearest x
  if maxExponent < exponent then .infinite negative else .finite negative significand exponent

/-- A decimal of this many places before its point is beyond every finite number, and one of
    as many zeros after its point is nearest to zero. -/
def decimalReach : Int := 400

/-- The number that `± digits · 10^exponent` denotes.  Decimals far out of reach are decided by
    their length alone, since their exponent may be of any size. -/
def ofDecimal (negative : Bool) (digits : Nat) (exponent : Int) : Binary64 :=
  let magnitude := (Nat.toDigits 10 digits).length + exponent
  if digits = 0 ∨ magnitude < -decimalReach then .finite negative 0 minExponent
  else if decimalReach < magnitude then .infinite negative
  else ofPositive negative ((digits : Rat) * (10 : Rat) ^ exponent)

end Binary64

end PlanScaffold.Decimal
