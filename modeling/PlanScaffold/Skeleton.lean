/-
  PlanScaffold/Skeleton.lean
  ==========================
  **The skeleton of a planning module.**

  A skeleton is a list of lines in six sections, one blank line between any two
  neighbouring sections: the head of the domain class, one line for each type, a stub for
  each predicate, a stub for each action, the head of the problem class, and the
  stubs every problem has.  A section without lines is still set off by its blank lines.
  The stubs of one section are also separated by blank lines.

  Everything is said about lines; `textOf` ends each of them with a line feed.
-/
import PlanScaffold.Answers

namespace PlanScaffold

/-- The text of a list of lines: each is ended by a line feed. -/
def textOf (lines : List String) : String :=
  String.ofList (lines.flatMap fun line => line.toList ++ ['\n'])

theorem textOf_append (first second : List String) :
    textOf (first ++ second) = textOf first ++ textOf second := by
  simp only [textOf, List.flatMap_append, String.ofList_append]

/-- Blocks of lines, with a blank line between any two. -/
def spaced (blocks : List (List String)) : List String := [""].intercalate blocks

namespace Skeleton

/-! ### The sections -/

/-- The imports and the head of the domain class. -/
def domainHeader (name : EntityName) : List String :=
  ["from py2pddl import Domain, create_type, create_objs",
   "from py2pddl import predicate, action, goal, init",
   "",
   "",
   "class " ++ name.text ++ "Domain(Domain):"]

def typeDeclaration (token : String) : String :=
  "    " ++ token ++ " = create_type(\"" ++ token ++ "\")"

def typeDeclarations (types : List String) : List String := types.map typeDeclaration

def predicateStub (token : String) : List String :=
  ["    @predicate(...)",
   "    def " ++ token ++ "(self):",
   "        \"\"\"Complete the method signature\"\"\""]

def predicateStubs (predicates : List String) : List String :=
  spaced (predicates.map predicateStub)

def actionStub (token : String) : List String :=
  ["    @action(...)",
   "    def " ++ token ++ "(self):",
   "        \"\"\"This should be a pass\"\"\"",
   "        precond: list = None  # to fill in",
   "        effect: list = None  # to fill in",
   "        return precond, effect"]

def actionStubs (actions : List String) : List String := spaced (actions.map actionStub)

/-- The head of the problem class, which extends the domain class. -/
def problemHeader (name : EntityName) : List String :=
  ["",
   "class " ++ name.text ++ "Problem(" ++ name.text ++ "Domain):"]

/-- The stubs of the objects, the initial state and the goal. -/
def problemStubs : List String :=
  spaced
    [["    def __init__(self):",
      "        \"\"\"To fill in\"\"\""],
     ["    @init",
      "    def init(self) -> list:",
      "        # To fill in",
      "        # Return type is a list",
      "        return None"],
     ["    @goal",
      "    def goal(self) -> list:",
      "        # To fill in",
      "        # Return type is a list",
      "        return None"]]

/-! ### The whole -/

def sections (answers : Answers) : List (List String) :=
  [domainHeader answers.name,
   typeDeclarations answers.types,
   predicateStubs answers.predicates,
   actionStubs answers.actions,
   problemHeader answers.name,
   problemStubs]

def lines (answers : Answers) : List String := spaced (sections answers)

def render (answers : Answers) : String := textOf (lines answers)

end Skeleton

end PlanScaffold
