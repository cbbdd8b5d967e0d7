/-
  PlanScaffold/Prompter.lean
  ==========================
  **Where answers come from.**

  A prompter shows a prompt and gives an answer or a fault.  `Script` has its answers
  ready and records the prompts.  `Terminal` writes each prompt and reads one line of
  bytes for it: a line that is no text is lost for its prompt only, and after the last
  line every prompt fails.
-/
import PlanScaffold.Fault
import PlanScaffold.Text.Utf8

namespace PlanScaffold

/-- Something that can be asked. -/
class Prompter (π : Type) where
  /-- The answer to a prompt, and the prompter after it. -/
  ask : π → String → Except Fault String × π

/-! ### Prepared answers -/

/-- Answers that are ready, and the prompts shown so far. -/
structure Script where
  answers : List String
  asked : List String := []
deriving DecidableEq, Repr

/-- The next answer, if one is left. -/
def Script.ask (script : Script) (prompt : String) : Except Fault String × Script :=
  let asked := script.asked ++ [prompt]
  match script.answers with
  | [] => (.error (.prompt ("No scripted answer for '" ++ prompt ++ "'")), ⟨[], asked⟩)
  | answer :: rest => (.ok answer, ⟨rest, asked⟩)

instance : Prompter Script := ⟨Script.ask⟩

/-! ### Lines of bytes -/

/-- The byte that ends a line. -/
def lineFeed : UInt8 := 10

/-- The first line of some bytes, with its end, and what follows it. -/
def cutLine (input : Bytes) : Bytes × Bytes :=
  let line := input.takeWhile (· != lineFeed)
  match input.dropWhile (· != lineFeed) with
  | [] => (line, [])
  | ending :: rest => (line ++ [ending], rest)

/-- Cutting a line off loses nothing. -/
theorem cutLine_append (input : Bytes) : (cutLine input).1 ++ (cutLine input).2 = input := by
  have hparts : input.takeWhile (· != lineFeed) ++ input.dropWhile (· != lineFeed) = input :=
    List.takeWhile_append_dropWhile
  unfold cutLine
  split
  · next hbehind =>
    rw [hbehind] at hparts
    exact hparts
  · next ending rest hbehind =>
    rw [hbehind] at hparts
    simpa using hparts

/-- A text without this character at its end, if it is there. -/
def dropLastChar (c : Char) (text : List Char) : List Char :=
  if text.getLast? = some c then text.dropLast else text

/-- A line without its end: one line feed, and one carriage return before it. -/
def withoutLineEnd (line : String) : String :=
  String.ofList (dropLastChar '\r' (dropLastChar '\n' line.toList))

/-- A stream of lines, and all that was written to whoever types them. -/
structure Terminal where
  input : Bytes
  written : String := ""
deriving DecidableEq, Repr

def promptText (prompt : String) : String := prompt ++ ": "

/-- The answer a line holds; without any bytes there is no line. -/
def answerIn (prompt : String) (line : Bytes) : Except Fault String :=
  if line = [] then .error (.io (.inputEnded prompt))
  else
    match Utf8.decode? line with
    | some text => .ok (withoutLineEnd text)
    | none => .error (.io .notUtf8)

def Terminal.ask (terminal : Terminal) (prompt : String) : Except Fault String × Terminal :=
  let (line, rest) := cutLine terminal.input
  (answerIn prompt line, ⟨rest, terminal.written ++ promptText prompt⟩)

instance : Prompter Terminal := ⟨Terminal.ask⟩

end PlanScaffold
