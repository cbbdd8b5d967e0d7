/-
  PlanScaffold/Toml/Expression.lean
  =================================
  **The expressions of a document.**

  A document is a sequence of expressions, each on lines of its own: a key with its
  value, the header of a table, or the header of one more table of an array.  Arrays and inline
  tables nest to a fixed depth, and a dotted key has a greatest length.
-/
import PlanScaffold.Toml.Moment
import PlanScaffold.Toml.Number

namespace PlanScaffold.Toml

open Reader

/-! ### Keys -/

/-- The greatest number of arrays and inline tables around a value, and of the parts
    of a dotted key. -/
def depthLimit : Nat := 79

def isBare (c : Char) : Bool :=
  c.isAlphanum || c == '-' || c == '_'

def keyPart : Reader String :=
  String.ofList <$> (basicString <|> literalString <|> takeSome isBare)

/-- A key, with the spaces around its parts: the parts before the last, and the last. -/
def key : Reader (List String × String) := do
  let parts ← sepBySome (spaces *> keyPart <* spaces) (char '.')
  match parts.getLast? with
  | some last => if parts.length ≤ depthLimit then pure (parts.dropLast, last) else failure
  | none => failure

/-! ### Tables under construction -/

/-- Adds a key with its value to a table, where `path` leads through the tables that the
    dotted key names on the way.  Missing ones are made; one that is there has to
    come from a dotted key if it receives the value, and otherwise may also be implied by a
    header or be the last of an array. -/
def Entries.define (entries : Entries) (path : List String) (last : String)
    (value : Value) : Option Entries :=
  match path with
  | [] =>
    match entries.get? last with
    | some _ => none
    | none => some (entries ++ [(last, value)])
  | part :: rest =>
    match entries.get? part with
    | none => do
      let inner ← Entries.define [] rest last value
      return entries ++ [(part, .table .dotted inner)]
    | some (.table .dotted inner) => do
      let inner ← Entries.define inner rest last value
      return entries.replace part (.table .dotted inner)
    | some (.table .implied inner) =>
      if rest = [] then none else do
        let inner ← Entries.define inner rest last value
        return entries.replace part (.table .implied inner)
    | some (.tables items) =>
      if rest = [] then none else do
        let inner ← Entries.define (← items.getLast?) rest last value
        return entries.replace part (.tables (items.dropLast ++ [inner]))
    | some _ => none

/-! ### Values -/

def scalar : Reader Scalar := do
  match ← peek with
  | some '"' | some '\'' => .string <$> anyString
  | some 't' => do literal ['t', 'r', 'u', 'e']; pure (.boolean true)
  | some 'f' => do literal ['f', 'a', 'l', 's', 'e']; pure (.boolean false)
  | _ => (do moment; pure .moment) <|> number

/-- An array of values, over several lines if need be. -/
def array (value : Reader Value) : Reader Value := do
  char '['
  let items ← sepBy (gaps *> value <* gaps) (char ',')
  if !items.isEmpty then
    let _ ← attempt (char ',')
  gaps
  char ']'
  pure (.array items)

/-- A key, an equals sign and a value, with spaces around each. -/
def pair (value : Reader Value) : Reader ((List String × String) × Value) := do
  let path ← key
  char '='
  spaces
  let read ← value
  spaces
  pure (path, read)

/-- A table on one line. -/
def inlineTable (value : Reader Value) : Reader Value := do
  char '\x7b'
  let pairs ← sepBy (pair value) (char ',')
  spaces
  char '\x7d'
  let entries ← pairs.foldlM
    (fun (entries : Entries) ((path, last), read) => entries.define path last read) []
  pure (.table .inline entries)

/-- A value inside at most `depth` more arrays and inline tables. -/
def value : Nat → Reader Value
  | 0 => .scalar <$> scalar
  | depth + 1 => array (value depth) <|> inlineTable (value depth) <|> (.scalar <$> scalar)

/-! ### Expressions -/

/-- One expression of a document, or a line without one. -/
inductive Expression where
  | assign (path : List String) (last : String) (value : Value)
  | header (path : List String) (last : String)
  | arrayHeader (path : List String) (last : String)
  | nothing

/-- The header of one more table of an array. -/
def arrayHeader : Reader Expression := do
  literal ['[', '[']
  let (path, last) ← key
  literal [']', ']']
  pure (.arrayHeader path last)

def header : Reader Expression := do
  char '['
  let (path, last) ← key
  char ']'
  pure (.header path last)

def assignment : Reader Expression := do
  let ((path, last), read) ← pair (value depthLimit)
  pure (.assign path last read)

/-- An expression with all that belongs to its line, and the spaces before the next. -/
def expression : Reader Expression := do
  let read ← match ← peek with
    | some '[' => (arrayHeader <|> header) <* lineRest
    | some '#' => (comment *> (newline <|> atEnd)) *> pure .nothing
    | some '\n' | some '\r' => newline *> pure .nothing
    | _ => assignment <* lineRest
  spaces
  pure read

/-- All expressions of a document; a byte order mark may stand before them. -/
def expressions : Reader (List Expression) := do
  let _ ← attempt (char '\uFEFF')
  spaces
  many expression

end PlanScaffold.Toml
