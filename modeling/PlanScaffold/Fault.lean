/-
  PlanScaffold/Fault.lean
  =======================
  **Why a command fails.**

  Each constructor of `Fault` is a cause; `Fault.message` has its wording and
  `Fault.kind` its broad kind, for callers that only tell kinds apart.
-/
import PlanScaffold.Config
import PlanScaffold.Path

namespace PlanScaffold

/-! ### Failures of input and output -/

/-- The broad kinds of failure of input and output. -/
inductive IoKind where
  | notFound
  | permissionDenied
  | connectionRefused
  | connectionReset
  | hostUnreachable
  | networkUnreachable
  | connectionAborted
  | notConnected
  | addressInUse
  | addressNotAvailable
  | networkDown
  | brokenPipe
  | alreadyExists
  | wouldBlock
  | notADirectory
  | isADirectory
  | directoryNotEmpty
  | readOnlyFileSystem
  | linkLoop
  | staleHandle
  | invalidInput
  | invalidData
  | timedOut
  | writeZero
  | storageFull
  | notSeekable
  | quotaExceeded
  | fileTooLarge
  | resourceBusy
  | executableBusy
  | deadlock
  | crossesDevices
  | tooManyLinks
  | invalidFileName
  | argumentListTooLong
  | interrupted
  | unsupported
  | unexpectedEnd
  | outOfMemory
  | other
deriving DecidableEq, Repr

/-- What a file system reports. -/
inductive SystemFault where
  | noEntry
  | alreadyThere
  | notADirectory
  | isADirectory
  | fileTooLarge
  | nameTooLong
  | linkLoop
deriving DecidableEq, Repr

/-- The number by which the system knows a fault. -/
def SystemFault.number : SystemFault → Nat
  | .noEntry => 2
  | .alreadyThere => 17
  | .notADirectory => 20
  | .isADirectory => 21
  | .fileTooLarge => 27
  | .nameTooLong => 36
  | .linkLoop => 40

def SystemFault.description : SystemFault → String
  | .noEntry => "No such file or directory"
  | .alreadyThere => "File exists"
  | .notADirectory => "Not a directory"
  | .isADirectory => "Is a directory"
  | .fileTooLarge => "File too large"
  | .nameTooLong => "File name too long"
  | .linkLoop => "Too many levels of symbolic links"

def SystemFault.kind : SystemFault → IoKind
  | .noEntry => .notFound
  | .alreadyThere => .alreadyExists
  | .notADirectory => .notADirectory
  | .isADirectory => .isADirectory
  | .fileTooLarge => .fileTooLarge
  | .nameTooLong => .invalidFileName
  | .linkLoop => .linkLoop

/-- Why input or output failed.  `reported` is a failure of which only its kind and wording are
    known. -/
inductive IoFault where
  | system (fault : SystemFault)
  | nulInPath
  | notUtf8
  | inputEnded (prompt : String)
  | reported (kind : IoKind) (text : String)
deriving DecidableEq, Repr

def IoFault.kind : IoFault → IoKind
  | .system fault => fault.kind
  | .nulInPath => .invalidInput
  | .notUtf8 => .invalidData
  | .inputEnded _ => .unexpectedEnd
  | .reported kind _ => kind

def IoFault.message : IoFault → String
  | .system fault => fault.description ++ " (os error " ++ toString fault.number ++ ")"
  | .nulInPath => "file name contained an unexpected NUL byte"
  | .notUtf8 => "stream did not contain valid UTF-8"
  | .inputEnded prompt => "input ended before an answer to '" ++ prompt ++ "'"
  | .reported _ text => text

/-! ### All failures -/

/-- Why a command failed. -/
inductive Fault where
  | io (cause : IoFault)
  | destinationExists (path : Path)
  | emptyInput (field : String)
  | prompt (reason : String)
  | config (cause : ConfigFault)
deriving DecidableEq, Repr

def Fault.kind : Fault → IoKind
  | .io cause => cause.kind
  | .destinationExists _ => .alreadyExists
  | .emptyInput _ => .invalidInput
  | .prompt _ => .other
  | .config _ => .invalidInput

/-- How the message of a faulty configuration begins. -/
def configHeading : String := "TOML parse error: "

/-- The wording of a fault.  That of a faulty configuration comes from its reader, who also tells where
    the fault is in the file. -/
def Fault.message (fault : Fault) (wording : ConfigFault → String := ConfigFault.message) : String :=
  match fault with
  | .io cause => cause.message
  | .destinationExists path =>
    path.text ++ ": this file already exists. Use a different filename."
  | .emptyInput field => field ++ " cannot be empty"
  | .prompt reason => "Prompt failed: " ++ reason
  | .config cause => configHeading ++ wording cause

end PlanScaffold
