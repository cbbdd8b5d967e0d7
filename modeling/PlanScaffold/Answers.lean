/-
  PlanScaffold/Answers.lean
  =========================
  **What the user's answers mean.**

  Four answers describe a planning problem: its name, and the lists of its types, predicates and
  actions.  A list is typed on one line, its tokens separated by single spaces; two
  spaces in a row leave an *empty token* between them, which a policy keeps or
  drops.  Types are shown in title case, predicates and actions in lower case.
-/
import PlanScaffold.Text.Casing

namespace PlanScaffold

open Text

/-! ### Policies -/

/-- How the letters of a token are written. -/
inductive Casing where
  | title
  | lower
deriving DecidableEq, Repr

def Casing.onText : Casing → List Char → List Char
  | .title => titleText
  | .lower => lowerText

def Casing.apply (casing : Casing) (token : String) : String :=
  String.ofList (casing.onText token.toList)

/-- What becomes of empty tokens. -/
inductive EmptyTokens where
  | preserve
  | collapse
deriving DecidableEq, Repr, Inhabited

/-- The tokens a policy lets through. -/
def EmptyTokens.select : EmptyTokens → List (List Char) → List (List Char)
  | .preserve, tokens => tokens
  | .collapse, tokens => tokens.filter fun token => !token.isEmpty

/-! ### Names -/

/-- The name of a problem, which is never empty. -/
structure EntityName where
  text : String
  text_ne : text ≠ ""
deriving DecidableEq, Repr

/-- The name in an answer: the answer without the blanks around it, its first
    character in upper case.  A blank answer holds no name. -/
def EntityName.ofAnswer? (answer : String) : Option EntityName :=
  match trim answer.toList with
  | [] => none
  | c :: rest => some
    { text := String.ofList (uppercase c ++ rest)
      text_ne := fun hempty =>
        uppercase_ne_nil c (List.append_eq_nil_iff.mp (String.ofList_eq_empty_iff.mp hempty)).1 }

/-! ### Tokens -/

/-- The words of a text between single spaces; a text without characters has none. -/
def words (text : List Char) : List (List Char) :=
  if text = [] then [] else text.splitOn ' '

/-- The tokens in an answer: the trimmed answer is cut at every space, the policy
    selects among the pieces, and the casing is applied to each of them. -/
def tokenize (answer : String) (casing : Casing) (policy : EmptyTokens) : List String :=
  (policy.select (words (trim answer.toList))).map fun token =>
    String.ofList (casing.onText token)

/-- A complete description of a planning problem. -/
structure Answers where
  name : EntityName
  types : List String
  predicates : List String
  actions : List String
deriving DecidableEq, Repr

end PlanScaffold
