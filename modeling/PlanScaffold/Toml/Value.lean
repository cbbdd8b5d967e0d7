/-
  PlanScaffold/Toml/Value.lean
  ============================
  **What a TOML document holds.**

  A table keeps its keys in the order in which they came into it.  This is not always the order
  of the text: a key whose value is a table stays where it is when something is added to that
  table further down, and it goes to the end when a table implied by a longer header is opened by
  its own header.

  A table also keeps its *origin*, because that decides who may still add to it: a table implied by
  a longer header may be opened once by its own header, one made by a dotted key
  may be extended by other dotted keys, and an inline table is complete.
-/
import PlanScaffold.Decimal.Binary64

namespace PlanScaffold.Toml

open Decimal

/-- How a table came to be. -/
inductive Origin where
  | header
  | implied
  | dotted
  | inline
deriving DecidableEq, Repr

/-- A value without parts.  Dates and times are known only to be such: no setting holds
    one. -/
inductive Scalar where
  | string (text : String)
  | integer (value : Int)
  | float (value : Binary64)
  | boolean (value : Bool)
  | moment
deriving DecidableEq, Repr

/-- A value.  An array of tables is one that headers have built; an array of values may hold
    inline tables. -/
inductive Value where
  | scalar (value : Scalar)
  | array (items : List Value)
  | table (origin : Origin) (entries : List (String × Value))
  | tables (items : List (List (String × Value)))

/-- The keys of a table with their values, in the order in which the table keeps them. -/
abbrev Entries := List (String × Value)

namespace Entries

def get? (entries : Entries) (key : String) : Option Value := List.lookup key entries

/-- The entries with a new value for a key that is there. -/
def replace (entries : Entries) (key : String) (value : Value) : Entries :=
  entries.map fun entry => if entry.1 = key then (key, value) else entry

def remove (entries : Entries) (key : String) : Entries :=
  entries.filter fun entry => entry.1 != key

end Entries

end PlanScaffold.Toml
