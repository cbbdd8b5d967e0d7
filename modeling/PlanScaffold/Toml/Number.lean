/-
  PlanScaffold/Toml/Number.lean
  =============================
  **Integers and floating-point numbers.**

  Underscores may stand between digits.  A decimal integer has no leading zero; one in
  base 16, 8 or 2 has no sign.  An integer has to fit into 64 bits.  A float has a
  fraction, an exponent or both, and a positive one has to be finite.
-/
import PlanScaffold.Toml.Quotation
import PlanScaffold.Toml.Value

namespace PlanScaffold.Toml

open Reader Decimal

/-- Whether a character is a digit of the base. -/
def isDigitOf (base : Nat) (c : Char) : Bool :=
  match hexDigit? c with
  | some value => value < base
  | none => false

/-- Digits of a base, with single underscores between them. -/
def digitRun (base : Nat) : Reader (List Char) := do
  let digit := one (isDigitOf base)
  return (← digit) :: (← many (digit <|> (char '_' *> digit)))

/-- A sign: whether the number is negative. -/
def sign : Reader Bool := do
  match ← attempt (one fun c => c == '+' || c == '-') with
  | some '-' => pure true
  | _ => pure false

/-- A decimal integer without leading zeros: whether it is negative, and its digits. -/
def decimalDigits : Reader (Bool × List Char) := do
  let negative ← sign
  if (← peek) = some '0' then
    char '0'
    pure (negative, ['0'])
  else
    return (negative, ← digitRun 10)

/-- An integer of 64 bits. -/
def bounded (value : Int) : Reader Scalar :=
  if -0x8000000000000000 ≤ value ∧ value < 0x8000000000000000 then pure (.integer value)
  else failure

/-- An integer after the mark of its base. -/
def basedInteger (mark : Char) (base : Nat) : Reader Scalar := do
  literal ['0', mark]
  bounded (ofDigits base (← digitRun base))

def integer : Reader Scalar :=
  basedInteger 'x' 16 <|> basedInteger 'o' 8 <|> basedInteger 'b' 2 <|> do
    let (negative, digits) ← decimalDigits
    let magnitude : Int := ofDigits 10 digits
    bounded (if negative then -magnitude else magnitude)

def exponent : Reader Int := do
  let _ ← one fun c => c == 'e' || c == 'E'
  let negative ← sign
  let magnitude : Int := ofDigits 10 (← digitRun 10)
  pure (if negative then -magnitude else magnitude)

/-- The digits behind the point, and the exponent that follows them. -/
def fraction : Reader (List Char × Int) := do
  char '.'
  let digits ← digitRun 10
  return (digits, (← attempt exponent).getD 0)

/-- A float written in digits.  One that is too large is refused if it is positive, and
    infinite if it is negative. -/
def writtenFloat : Reader Scalar := do
  let (negative, whole) ← decimalDigits
  let (behind, power) ← fraction <|> (do return ([], ← exponent))
  let number := Binary64.ofDecimal negative (ofDigits 10 (whole ++ behind))
    (power - behind.length)
  if number = .infinite false then failure else pure (.float number)

/-- An infinity, or the float that is no number. -/
def specialFloat : Reader Scalar := do
  let negative ← sign
  (do literal ['i', 'n', 'f']; pure (.float (.infinite negative)))
    <|> (do literal ['n', 'a', 'n']; pure (.float .notANumber))

def number : Reader Scalar := writtenFloat <|> specialFloat <|> integer

end PlanScaffold.Toml
