/-
  PlanScaffold/Log.lean
  =====================
  **What a run reports about itself.**

  A run reports events.  Each has a level, and a threshold decides which levels are shown;
  an event that is not shown leaves no trace.  The line of an event stands here without the time in
  front of it and without colours.
-/
import PlanScaffold.Fault

namespace PlanScaffold

/-! ### Levels -/

/-- How important an event is, from the most important down. -/
inductive Level where
  | error
  | warn
  | info
  | debug
  | trace
deriving DecidableEq, Repr

/-- How far down the levels events are shown. -/
inductive Threshold where
  | off
  | upTo (level : Level)
deriving DecidableEq, Repr

def Level.rank : Level → Nat
  | .error => 1
  | .warn => 2
  | .info => 3
  | .debug => 4
  | .trace => 5

/-- The name of a level, right-aligned in five columns. -/
def Level.label : Level → String
  | .error => "ERROR"
  | .warn => " WARN"
  | .info => " INFO"
  | .debug => "DEBUG"
  | .trace => "TRACE"

namespace Threshold

def rank : Threshold → Nat
  | .off => 0
  | .upTo level => level.rank

/-- The threshold that holds where none is set. -/
def standard : Threshold := .upTo .warn

/-- All thresholds, from the quietest to the loudest. -/
def all : List Threshold :=
  [.off, .upTo .error, .upTo .warn, .upTo .info, .upTo .debug, .upTo .trace]

def name : Threshold → String
  | .off => "off"
  | .upTo .error => "error"
  | .upTo .warn => "warn"
  | .upTo .info => "info"
  | .upTo .debug => "debug"
  | .upTo .trace => "trace"

/-- The threshold that a word stands for: it is the name, with letters of either case, or the
    number. -/
def ofWord? (word : List Char) : Option Threshold :=
  all.find? fun threshold =>
    word.map Char.toLower == threshold.name.toList || word == Nat.toDigits 10 threshold.rank

/-- The threshold of a setting.  Of several words with commas between them the last one decides; where
    there is no word at all, nothing is shown.

    A setting with any other word in it counts as not set.  That is right for words without a meaning.
    It is a simplification for those that select events by the part of the program or by the
    activity in which they are reported. -/
def ofSetting (setting : String) : Threshold :=
  match ((setting.toList.splitOn ',').filter (· != [])).mapM ofWord? with
  | some thresholds => thresholds.getLast?.getD .off
  | none => .standard

/-- Every threshold can be set. -/
theorem ofSetting_name (threshold : Threshold) : ofSetting threshold.name = threshold := by
  cases threshold with
  | off => decide
  | upTo level => cases level <;> decide

example : ofSetting "error,,4" = .upTo .debug := by decide
example : ofSetting "quiet" = .standard := by decide

end Threshold

/-! ### Events -/

/-- Something a run reports. -/
inductive Event where
  | noConfigFile (path : Path)
  | loadingConfig (path : Path)
  | noPythonSuffix (destination : Path)
  | emptyTokens (prompt : String)
  | collected (name : String) (types predicates actions : Nat)
  | rendered (bytes : Nat)
  | written (destination : Path)
  /-- A file could not be written whole, and what there is of it could not be removed. -/
  | partLeft (path : Path) (cause : IoFault)
deriving DecidableEq, Repr

/-- The value in a field of an event. -/
inductive FieldValue where
  | bare (text : String)
  | quoted (text : String)
  | count (number : Nat)
deriving DecidableEq, Repr

def FieldValue.text : FieldValue → String
  | .bare text => text
  | .quoted text => Text.quoted text
  | .count number => toString number

namespace Event

def level : Event → Level
  | .noPythonSuffix _ | .partLeft .. => .warn
  | .written _ => .info
  | _ => .debug

def message : Event → String
  | .noConfigFile _ => "no config file, using defaults"
  | .loadingConfig _ => "loading config"
  | .noPythonSuffix _ => "destination does not end with .py"
  | .emptyTokens _ => "answer contains empty tokens"
  | .collected .. => "collected answers"
  | .rendered _ => "rendered skeleton"
  | .written _ => "skeleton written"
  | .partLeft .. => "failed to remove partial skeleton"

def fields : Event → List (String × FieldValue)
  | .noConfigFile path | .loadingConfig path | .noPythonSuffix path | .written path =>
    [("path", .bare path.text)]
  | .emptyTokens prompt => [("prompt", .quoted prompt)]
  | .collected name types predicates actions =>
    [("name", .quoted name), ("types", .count types), ("predicates", .count predicates),
     ("actions", .count actions)]
  | .rendered bytes => [("bytes", .count bytes)]
  | .partLeft path cause => [("path", .bare path.text), ("error", .bare cause.message)]

/-- The line of an event, without its end. -/
def line (event : Event) : String :=
  event.level.label ++ " " ++ event.message
    ++ String.join (event.fields.map fun (name, value) => " " ++ name ++ "=" ++ value.text)

def passes (threshold : Threshold) (event : Event) : Bool :=
  event.level.rank ≤ threshold.rank

end Event

def logText (events : List Event) : String :=
  String.join (events.map fun event => event.line ++ "\n")

end PlanScaffold
