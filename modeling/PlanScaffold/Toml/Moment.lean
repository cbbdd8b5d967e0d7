/-
  PlanScaffold/Toml/Moment.lean
  =============================
  **Dates and times.**

  A date, a time, or both with an optional offset from universal time.  The fields
  have to be in range: the day must exist in its month, the leap second 60 may be given,
  and an offset is less than a day.
-/
import PlanScaffold.Toml.Reader
import PlanScaffold.Toml.Quotation

namespace PlanScaffold.Toml

open Reader

/-- A number of exactly `count` digits, between two bounds. -/
def field (count least greatest : Nat) : Reader Nat := do
  let value := ofDigits 10 (← exactly (one Char.isDigit) count)
  if least ≤ value ∧ value ≤ greatest then pure value else failure

/-- Whether the year has a leap day. -/
def isLeapYear (year : Nat) : Bool :=
  year % 4 = 0 && (year % 100 ≠ 0 || year % 400 = 0)

def daysIn (year month : Nat) : Nat :=
  if month = 2 then (if isLeapYear year then 29 else 28)
  else if month = 4 ∨ month = 6 ∨ month = 9 ∨ month = 11 then 30
  else 31

def date : Reader Unit := do
  let year ← field 4 0 9999
  char '-'
  let month ← field 2 1 12
  char '-'
  let _ ← field 2 1 (daysIn year month)

def time : Reader Unit := do
  let _ ← field 2 0 23
  char ':'
  let _ ← field 2 0 59
  char ':'
  let _ ← field 2 0 60
  let _ ← attempt (char '.' *> takeSome Char.isDigit)

def offset : Reader Unit := do
  match ← one fun c => c == 'Z' || c == 'z' || c == '+' || c == '-' with
  | 'Z' | 'z' => pure ()
  | _ =>
    let _ ← field 2 0 23
    char ':'
    let _ ← field 2 0 59

/-- A moment: a date, a date and a time, or a time. -/
def moment : Reader Unit :=
  (do
    date
    let _ ← attempt (do
      let _ ← one fun c => c == 'T' || c == 't' || c == ' '
      time
      attempt offset))
  <|> time

end PlanScaffold.Toml
