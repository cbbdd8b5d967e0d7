/-
  PlanScaffold/Config.lean
  ========================
  **The configuration file's one setting.**

  A configuration says what becomes of empty tokens: the key `empty` of the table
  `tokens`.  Two other spellings of the same setting are accepted as well.  The table may be
  written as an array whose first item is the setting, and a policy may be written as a
  table whose only key is its name and whose value is an empty table or array.

  Nothing else may stand in the file.  `Config.ofEntries` reports the first misfit in the
  order in which the document's tables keep their entries, and never passes over one.
-/
import PlanScaffold.Answers
import PlanScaffold.Decimal.Shortest
import PlanScaffold.Text.Quoted
import PlanScaffold.Toml.Document

namespace PlanScaffold

open Toml

/-- What the configuration file decides. -/
structure Config where
  emptyTokens : EmptyTokens
deriving DecidableEq, Repr

/-- The configuration where nothing is said: empty tokens are kept. -/
def Config.standard : Config := ⟨.preserve⟩

/-! ### Misfits -/

/-- Why a value is no configuration. -/
inductive Misfit where
  | unknownKey (key expected : String)
  | tokensShape (found : Scalar)
  | unknownPolicy (name : String)
  | policyShape
  | policyWithoutKey
  | policyWithManyKeys
  | argumentNotEmptyTable
  | argumentNotEmptyArray
  | argumentShape (found : Scalar)
deriving DecidableEq, Repr

/-- Why a text is no configuration: it is no document at all, or one with a misfit.  At which line and
    column this is, and why a text is no document, is told by the wording alone, which nothing else
    depends on. -/
inductive ConfigFault where
  | malformed
  | misfit (cause : Misfit)
deriving DecidableEq, Repr

def Toml.Scalar.description : Scalar → String
  | .string text => "string " ++ Text.quoted text
  | .integer value => "integer `" ++ toString value ++ "`"
  | .float value => "floating point `" ++ value.text ++ "`"
  | .boolean value => "boolean `" ++ (if value then "true" else "false") ++ "`"
  | .moment => "datetime"

def Toml.Scalar.kind : Scalar → String
  | .string _ => "string"
  | .integer _ => "integer"
  | .float _ => "float"
  | .boolean _ => "boolean"
  | .moment => "datetime"

def Misfit.message : Misfit → String
  | .unknownKey key expected => "unknown field `" ++ key ++ "`, expected `" ++ expected ++ "`"
  | .tokensShape found => "invalid type: " ++ found.description ++ ", expected struct TokenConfig"
  | .unknownPolicy name =>
    "unknown variant `" ++ name ++ "`, expected `preserve` or `collapse`"
  | .policyShape => "wanted string or table"
  | .policyWithoutKey => "wanted exactly 1 element, found 0 elements"
  | .policyWithManyKeys => "wanted exactly 1 element, more than 1 element"
  | .argumentNotEmptyTable => "expected empty table"
  | .argumentNotEmptyArray => "expected empty array"
  | .argumentShape found => "expected table, found " ++ found.kind

/-- The plain wording of a fault, without a place in the text. -/
def ConfigFault.message : ConfigFault → String
  | .malformed => "invalid document"
  | .misfit cause => cause.message

/-! ### Reading -/

namespace Config

def policyNamed (name : String) : Except Misfit EmptyTokens :=
  if name = "preserve" then .ok .preserve
  else if name = "collapse" then .ok .collapse
  else .error (.unknownPolicy name)

/-- A policy written as a key has nothing to say: its value has to be empty. -/
def checkArgument : Value → Except Misfit Unit
  | .table _ [] | .array [] | .tables [] => .ok ()
  | .table _ _ | .array _ => .error .argumentNotEmptyTable
  | .tables _ => .error .argumentNotEmptyArray
  | .scalar found => .error (.argumentShape found)

def policyOf : Value → Except Misfit EmptyTokens
  | .scalar (.string name) => policyNamed name
  | .table _ [] => .error .policyWithoutKey
  | .table _ [(name, argument)] => do
    let policy ← policyNamed name
    checkArgument argument
    return policy
  | .table _ (_ :: _ :: _) => .error .policyWithManyKeys
  | _ => .error .policyShape

/-- Reads a table in which only one key may stand; `found` is the setting so far. -/
def underKey (expected : String) (read : Value → Except Misfit EmptyTokens)
    (found : EmptyTokens) : Entries → Except Misfit EmptyTokens
  | [] => .ok found
  | (key, value) :: rest =>
    if key = expected then do underKey expected read (← read value) rest
    else .error (.unknownKey key expected)

/-- The name under which a date or time presents itself where settings are expected. -/
def momentKey : String := "$__toml_private_datetime"

def policyOfTokens : Value → Except Misfit EmptyTokens
  | .table _ entries => underKey "empty" policyOf .preserve entries
  | .array [] | .tables [] => .ok .preserve
  | .array (first :: _) => policyOf first
  | .tables (first :: _) => policyOf (.table .header first)
  | .scalar .moment => .error (.unknownKey momentKey "empty")
  | .scalar found => .error (.tokensShape found)

def ofEntries (entries : Entries) : Except Misfit Config := do
  return ⟨← underKey "tokens" policyOfTokens .preserve entries⟩

def parse (text : String) : Except ConfigFault Config :=
  match document? text with
  | none => .error .malformed
  | some entries => (ofEntries entries).mapError .misfit

end Config

end PlanScaffold
