/-
  PlanScaffold/Toml/Quotation.lean
  ================================
  **Strings.**

  Between double quotes a backslash introduces an escape; between single quotes every
  character stands for itself.  Three quotes open and close a string of several lines:
  a line end directly after the opening is dropped, every other counts as a line feed, and
  one or two quotes may stand inside, also directly before the closing three.
-/
import PlanScaffold.Toml.Reader

namespace PlanScaffold.Toml

open Reader

/-! ### Escapes -/

def hexDigit? (c : Char) : Option Nat :=
  if '0' ≤ c ∧ c ≤ '9' then some (c.toNat - '0'.toNat)
  else if 'a' ≤ c ∧ c ≤ 'f' then some (c.toNat - 'a'.toNat + 10)
  else if 'A' ≤ c ∧ c ≤ 'F' then some (c.toNat - 'A'.toNat + 10)
  else none

/-- The number that digits of a base write. -/
def ofDigits (base : Nat) (digits : List Char) : Nat :=
  digits.foldl (fun number c => number * base + (hexDigit? c).getD 0) 0

/-- The character with a code point of so many hexadecimal digits. -/
def codePoint (count : Nat) : Reader Char := do
  let code := ofDigits 16 (← exactly (one fun c => (hexDigit? c).isSome) count)
  if code.isValidChar then pure (Char.ofNat code) else failure

def escape : Reader Char := do
  char '\\'
  match ← one fun _ => true with
  | 'b' => pure '\x08'
  | 'f' => pure '\x0c'
  | 'n' => pure '\n'
  | 'r' => pure '\r'
  | 't' => pure '\t'
  | '"' => pure '"'
  | '\\' => pure '\\'
  | 'u' => codePoint 4
  | 'U' => codePoint 8
  | _ => failure

/-! ### One line -/

/-- A part of a string between double quotes: characters that stand for themselves, or an
    escape. -/
def basicPart : Reader (List Char) :=
  takeSome (fun c => isVisible c && c != '"' && c != '\\') <|> (do return [← escape])

def basicString : Reader (List Char) := do
  char '"'
  let parts ← many basicPart
  char '"'
  pure parts.flatten

def literalString : Reader (List Char) := do
  char '\''
  let body ← takeWhile fun c => isVisible c && c != '\''
  char '\''
  pure body

/-! ### Several lines -/

/-- One or two quotes inside a string of several lines. -/
def innerQuotes (quote : Char) : Reader (List Char) := do
  let quotes ← takeSome (· == quote)
  if quotes.length ≤ 2 ∧ (← peek).isSome then pure quotes else failure

/-- The closing quotes of a string of several lines, with up to two before them that belong
    to the string. -/
def closingQuotes (quote : Char) : Reader (List Char) := do
  literal [quote, quote, quote]
  match ← attempt (literal [quote]), ← attempt (literal [quote]) with
  | none, _ => pure []
  | some _, none => pure [quote]
  | some _, some _ => pure [quote, quote]

def innerNewline : Reader (List Char) := do
  newline
  pure ['\n']

/-- A backslash at the end of a line, which hides it and all space up to the next character. -/
def hiddenNewline : Reader (List Char) := do
  char '\\'
  spaces
  newline
  let _ ← many (newline <|> (do let _ ← takeSome isSpace))
  pure []

/-- A string of several lines, given how its quotes look and which parts may stand in it. -/
def multilineString (quote : Char) (part : Reader (List Char)) : Reader (List Char) := do
  literal [quote, quote, quote]
  let _ ← attempt newline
  let parts ← many (part <|> innerNewline <|> innerQuotes quote)
  return parts.flatten ++ (← closingQuotes quote)

/-- A string between three double quotes. -/
def multilineBasic : Reader (List Char) :=
  multilineString '"' <|
    takeSome (fun c => isVisible c && c != '"' && c != '\\')
      <|> hiddenNewline <|> (do return [← escape])

/-- A string between three single quotes. -/
def multilineLiteral : Reader (List Char) :=
  multilineString '\'' (takeSome fun c => isVisible c && c != '\'')

def anyString : Reader String :=
  String.ofList <$>
    (multilineBasic <|> basicString <|> multilineLiteral <|> literalString)

end PlanScaffold.Toml
