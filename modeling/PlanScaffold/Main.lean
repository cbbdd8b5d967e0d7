/-
  PlanScaffold/Main.lean
  ======================
  **The command on a real system.**

  Standard input and output, the file system and the environment stand in for the pure values of a
  session.  Nothing is decided here: the bytes of a line become an answer by
  `answerIn`, a system's error number becomes a fault by `systemFault?`, and the
  command itself is `perform`.
-/
import PlanScaffold.Command

namespace PlanScaffold.Main

open PlanScaffold

/-- The fault with this number, if it is a known one.  Some calls report the number and others
    its negative. -/
def systemFault? (number : UInt32) : Option SystemFault :=
  [SystemFault.noEntry, .alreadyThere, .notADirectory, .isADirectory, .fileTooLarge,
    .nameTooLong, .linkLoop].find? fun fault =>
      fault.number == number.toNat || fault.number == (0 - number).toNat

/-- The number a system's error carries, if it has one. -/
def errorNumber? : IO.Error → Option UInt32
  | .alreadyExists _ number _ | .otherError number _ | .resourceBusy number _
  | .resourceVanished number _ | .unsupportedOperation number _ | .hardwareFault number _
  | .unsatisfiedConstraints number _ | .illegalOperation number _ | .protocolError number _
  | .timeExpired number _ | .interrupted _ number _ | .noFileOrDirectory _ number _
  | .invalidArgument _ number _ | .permissionDenied _ number _ | .resourceExhausted _ number _
  | .inappropriateType _ number _ | .noSuchThing _ number _ => some number
  | .unexpectedEof | .userError _ => none

/-- A system's error as a failure of input or output. -/
def ioFault (error : IO.Error) : IoFault :=
  match (errorNumber? error).bind systemFault? with
  | some fault => .system fault
  | none => .reported .other (toString error)

/-- The command's surroundings are the system's; an error of the system is a fault. -/
abbrev SystemM := EIO Fault

def act {α : Type} (action : IO α) : SystemM α :=
  action.toEIO fun error => .io (ioFault error)

/-- An action of the system, with its error as a value. -/
def attempt {α : Type} (action : IO α) : SystemM (Except IoFault α) :=
  tryCatch (do return .ok (← act action)) fun
    | .io cause => pure (.error cause)
    | fault => throw fault

/-- The bytes of the next line of standard input, with its end. -/
partial def readLine (input : IO.FS.Stream) (line : Bytes) : IO Bytes := do
  match (← input.read 1).data.toList with
  | [] => return line.reverse
  | byte :: _ =>
    if byte == lineFeed then return (byte :: line).reverse
    else readLine input (byte :: line)

/-- The environment variable that sets the threshold of the log. -/
def logVariable : String := "PY2PDDL_LOG"

def threshold : IO Threshold := do
  match ← IO.getEnv logVariable with
  | some setting => return .ofSetting setting
  | none => return .standard

def report (event : Event) : SystemM Unit :=
  act (do if event.passes (← threshold) then IO.eprint (logText [event]))

/-- Makes a new file with this text, or none. -/
def createFile (path : Path) (text : String) : SystemM Unit := do
  let handle ← match ← attempt (IO.FS.Handle.mk path.text .writeNew) with
    | .ok handle => pure handle
    | .error cause => throw (Disk.openFault path cause)
  match ← attempt (do handle.putStr text; handle.flush) with
  | .ok () => pure ()
  | .error cause =>
    match ← attempt (IO.FS.removeFile path.text) with
    | .ok () => pure ()
    | .error left => report (.partLeft path left)
    throw (.io cause)

instance : Workplace SystemM where
  taken path := return (← attempt (IO.FS.realPath path.text)).isOk
  create := createFile
  ask prompt := do
    let output ← IO.getStdout
    act (output.putStr (promptText prompt))
    act output.flush
    let line ← act (do readLine (← IO.getStdin) [])
    match answerIn prompt line with
    | .ok answer => pure answer
    | .error fault => throw fault
  note := report

instance : ConfigHost SystemM where
  workingDirectory := act (do return ⟨(← IO.currentDir).toString⟩)
  readText path := do
    match ← attempt (IO.FS.readBinFile path.text) with
    | .error cause => return .error cause
    | .ok bytes =>
      match Utf8.decode? bytes.data.toList with
      | some text => return .ok text
      | none => return .error .notUtf8

end PlanScaffold.Main

open PlanScaffold in
/-- Runs the command with the arguments of the process. -/
def main (arguments : List String) : IO UInt32 := do
  let command : Main.SystemM Ending := perform arguments
  let ending ← match ← command.toIO' with
    | .ok ending => pure ending
    | .error fault => pure (Ending.failure fault)
  IO.print ending.output
  IO.eprint ending.complaint
  return ending.code.toUInt32
