/-
  PlanScaffold/Text/Casing.lean
  =============================
  **Whole texts in lower case and in title case.**

  `lowerText` maps each character to its full lowercase form, except that a capital
  sigma which ends a word becomes the final sigma.  `titleText` gives each
  character that starts a word its titlecase form and lowers the others, one
  by one; here a word is a run of characters that continue one another
  (`continuesWord`), so an apostrophe or a digit starts a new word.
-/
import PlanScaffold.Text.CaseClass
import PlanScaffold.Text.CaseMap

namespace PlanScaffold.Text

/-- Whether the first character that is not case-ignorable is cased. -/
def meetsCased (text : List Char) : Bool :=
  match text.dropWhile isCaseIgnorable with
  | [] => false
  | c :: _ => isCased c

/-- The lowercase form of one character between the text before it, read backwards, and the
    text after it: a capital sigma is final when a cased letter stands before it
    and none after it. -/
def lowerWithin (before : List Char) (c : Char) (after : List Char) : List Char :=
  if c = 'Σ' then [if meetsCased before && !meetsCased after then 'ς' else 'σ']
  else lowercase c

/-- The lowercase form of `text`, which follows `before` (read backwards). -/
def lowerFrom (before : List Char) : List Char → List Char
  | [] => []
  | c :: rest => lowerWithin before c rest ++ lowerFrom (c :: before) rest

def lowerText (text : List Char) : List Char := lowerFrom [] text

/-- The title case of `text`; `inWord` says whether the character before it continues
    a word. -/
def titleFrom (inWord : Bool) : List Char → List Char
  | [] => []
  | c :: rest => (if inWord then lowercase c else titlecase c) ++ titleFrom (continuesWord c) rest

/-- A text in title case. -/
def titleText (text : List Char) : List Char := titleFrom false text

end PlanScaffold.Text
