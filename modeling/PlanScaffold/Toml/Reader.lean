/-
  PlanScaffold/Toml/Reader.lean
  =============================
  **Reading from the front of a text.**

  A reader takes characters from the front of a text and gives a value, or fails and
  takes nothing.  `many` repeats a reader as long as it succeeds; every repetition
  has to take at least one character, so the text itself bounds their number.

  Spaces and tabs separate the parts of one line of a document.  A line ends with a line feed, or a
  carriage return and a line feed, and may end in a comment.  Control characters other than
  the tab stand nowhere.
-/
namespace PlanScaffold.Toml

/-- A reader: a value and the rest of the text, or failure. -/
abbrev Reader (α : Type) := StateT (List Char) Option α

namespace Reader

variable {α β : Type}

/-- Runs a reader on a whole text. -/
def readAll? (reader : Reader α) (text : List Char) : Option α :=
  match reader.run text with
  | some (value, []) => some value
  | _ => none

/-- The next character, left in place. -/
def peek : Reader (Option Char) := fun text => some (text.head?, text)

/-- The next character, if it satisfies the test. -/
def one (test : Char → Bool) : Reader Char
  | [] => none
  | c :: rest => if test c then some (c, rest) else none

def char (c : Char) : Reader Unit := do
  let _ ← one (· == c)

def literal (expected : List Char) : Reader Unit := expected.forM char

/-- All characters up to the first that fails the test. -/
def takeWhile (test : Char → Bool) : Reader (List Char) := fun text =>
  some (text.takeWhile test, text.dropWhile test)

/-- As `takeWhile`, but at least one character. -/
def takeSome (test : Char → Bool) : Reader (List Char) := do
  return (← one test) :: (← takeWhile test)

/-- The value of a reader if it succeeds; nothing is taken if it fails. -/
def attempt (reader : Reader α) : Reader (Option α) :=
  (some <$> reader) <|> pure none

/-- As many values as there are, but no more than `bound` is long, and the rest of the text. -/
def upTo (reader : Reader α) : List Char → List Char → List α × List Char
  | [], text => ([], text)
  | _ :: bound, text =>
    match reader.run text with
    | none => ([], text)
    | some (value, rest) =>
      let (values, rest) := upTo reader bound rest
      (value :: values, rest)

/-- As many values as there are.  The reader takes at least one character for each, so there
    are no more than the text is long. -/
def many (reader : Reader α) : Reader (List α) := fun text =>
  some (upTo reader text text)

/-- Exactly `count` values. -/
def exactly (reader : Reader α) : Nat → Reader (List α)
  | 0 => pure []
  | count + 1 => do return (← reader) :: (← exactly reader count)

/-- At least one value, with separators between them; a separator which no value follows
    is left in place. -/
def sepBySome (reader : Reader α) (separator : Reader β) : Reader (List α) := do
  return (← reader) :: (← many (separator *> reader))

/-- Any number of values, with separators between them. -/
def sepBy (reader : Reader α) (separator : Reader β) : Reader (List α) :=
  sepBySome reader separator <|> pure []

end Reader

/-! ### Between the parts of a document -/

open Reader

def isSpace (c : Char) : Bool := c == ' ' || c == '\t'

/-- Whether the character may stand in comments and strings: not a control character,
    except the tab; those beyond ASCII all may. -/
def isVisible (c : Char) : Bool := c == '\t' || (' ' ≤ c && c ≤ '~') || '\x7f' < c

def spaces : Reader Unit := do
  let _ ← takeWhile isSpace

def newline : Reader Unit := literal ['\n'] <|> literal ['\r', '\n']

def comment : Reader Unit := do
  char '#'
  let _ ← takeWhile isVisible

def atEnd : Reader Unit := do
  if (← peek).isSome then failure

/-- What may follow an expression on its line: spaces, a comment, and the end of the line
    or of the text. -/
def lineRest : Reader Unit := do
  spaces
  let _ ← attempt comment
  newline <|> atEnd

/-- Spaces, ends of lines and comments, in any number; a comment ends with its line. -/
def gaps : Reader Unit := do
  spaces
  let _ ← many ((newline <|> (comment *> newline)) *> spaces)

end PlanScaffold.Toml
