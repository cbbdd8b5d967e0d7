/-
  PlanScaffold/CommandLine.lean
  =============================
  **What the arguments ask for.**

  The command takes one file name.  Options may stand anywhere before `--`, and the first
  one decides; an argument that is only a hyphen is a file name.  Everything that is wrong with
  the arguments is found before anything else happens.

  Both options are switches: they ask for something and take no value.  A name that is none
  of theirs may be a slip of the hand; `Switch.closest?` finds the option that was meant.  A message
  repeats only what a terminal would show of an argument.
-/
import PlanScaffold.Path
import PlanScaffold.Text.ControlSequence
import PlanScaffold.Text.Similarity

namespace PlanScaffold

/-! ### Options -/

/-- The options that the command knows. -/
inductive Switch where
  | help
  | version
deriving DecidableEq, Repr

namespace Switch

/-- All options, in the order of the help text. -/
def all : List Switch := [.help, .version]

def name : Switch → String
  | .help => "help"
  | .version => "version"

/-- The option as it is written in an argument. -/
def text (switch : Switch) : String := "--" ++ switch.name

/-- The option with a long name. -/
def ofName? (name : String) : Option Switch := all.find? fun switch => switch.name == name

/-- How alike a name has to be, at least, to be taken for a slip of the hand: more than seven
    tenths. -/
def slipBound : Rat := Decimal.Binary64.rounded (7 / 10)

/-- The option whose name is most like the one given, if any is like it; of two that are equally
    alike, the later. -/
def closest? (given : String) : Option Switch :=
  let likeness (switch : Switch) : Rat := Text.similarity given switch.name
  (all.filter fun switch => slipBound < likeness switch).foldl (fun best switch =>
    match best with
    | some other => if likeness switch < likeness other then best else some switch
    | none => some switch) none

end Switch

/-! ### Requests -/

/-- What the user may have meant by an unexpected argument. -/
inductive Intent where
  | unknown
  | fileName
  | option (switch : Switch)
deriving DecidableEq, Repr

/-- What is wrong with the arguments. -/
inductive UsageFault where
  | missingFileName
  | emptyFileName
  | unexpected (argument : String) (intent : Intent)
  | unexpectedValue (value : String) (switch : Switch)
deriving DecidableEq, Repr

/-- What the arguments ask for. -/
inductive Request where
  | generate (destination : Path)
  | help
  | version
  | refuse (fault : UsageFault)
deriving DecidableEq, Repr

namespace CommandLine

/-! ### Texts -/

def versionText : String := "py2pddl-init 0.1.0\n"

/-- How the command is called, with an option that has been recognised. -/
def usageLine (recognised : Option Switch) : String :=
  let options := match recognised with
    | none => ""
    | some switch => switch.text ++ " "
  "Usage: py2pddl-init " ++ options ++ "<FILENAME>\n"

def helpHint : String := "For more information, try '--help'.\n"

def helpText : String :=
  "Interactively generate a py2pddl domain and problem skeleton\n\n"
    ++ usageLine none
    ++ "\nArguments:\n"
    ++ "  <FILENAME>  Destination file to create (conventionally ending in `.py`); "
    ++ "must not exist\n"
    ++ "\nOptions:\n"
    ++ "  -h, --help     Print help\n"
    ++ "  -V, --version  Print version\n"

/-- What a terminal shows of a text, in quotes. -/
def shown (text : String) : String := "'" ++ Text.visible text ++ "'"

/-- What the user is advised to write instead. -/
def tip (argument : String) : Intent → String
  | .unknown => ""
  | .fileName =>
    "  tip: to pass " ++ shown argument ++ " as a value, use " ++ shown ("-- " ++ argument)
      ++ "\n\n"
  | .option switch => "  tip: a similar argument exists: " ++ shown switch.text ++ "\n\n"

def faultText : UsageFault → String
  | .missingFileName =>
    "error: the following required arguments were not provided:\n  <FILENAME>\n\n"
      ++ usageLine none ++ "\n" ++ helpHint
  | .emptyFileName =>
    "error: a value is required for '<FILENAME>' but none was supplied\n\n" ++ helpHint
  | .unexpected argument intent =>
    let recognised := match intent with
      | .option switch => some switch
      | .unknown | .fileName => none
    "error: unexpected argument " ++ shown argument ++ " found\n\n" ++ tip argument intent
      ++ usageLine recognised ++ "\n" ++ helpHint
  | .unexpectedValue value switch =>
    "error: unexpected value " ++ shown value ++ " for " ++ shown switch.text
      ++ " found; no more were expected\n\n" ++ usageLine (some switch) ++ "\n" ++ helpHint

/-! ### Reading -/

inductive Shape where
  | separator
  | option (request : Request)
  | value
deriving DecidableEq, Repr

def request : Switch → Request
  | .help => .help
  | .version => .version

/-- What a long option asks for, given its name and the value attached to it.  A name that is
    unlike those of the options is more likely to be a file name. -/
def longOption (name : String) (attached : Option String) : Request :=
  match Switch.ofName? name, attached with
  | some switch, none => request switch
  | some switch, some value => .refuse (.unexpectedValue value switch)
  | none, _ =>
    let intent := match Switch.closest? name with
      | some switch => .option switch
      | none => .fileName
    .refuse (.unexpected ("--" ++ name) intent)

/-- What an argument before `--` is: of several short options in one argument, the first
    decides. -/
def shape (argument : String) : Shape :=
  match argument.toList with
  | ['-', '-'] => .separator
  | '-' :: '-' :: text =>
    let attached := match text.dropWhile (· != '=') with
      | [] => none
      | _ :: value => some (String.ofList value)
    .option (longOption (String.ofList (text.takeWhile (· != '='))) attached)
  | '-' :: 'h' :: _ => .option (request .help)
  | '-' :: 'V' :: _ => .option (request .version)
  | '-' :: c :: _ => .option (.refuse (.unexpected (String.ofList ['-', c]) .fileName))
  | _ => .value

/-- The request once all arguments have been read. -/
def conclude : Option String → Request
  | none => .refuse .missingFileName
  | some "" => .refuse .emptyFileName
  | some name => .generate ⟨name⟩

/-- What an option asks for behind the file name found so far, which is looked at before
    help or the version is given. -/
def afterName (found : Option String) : Request → Request
  | .refuse fault => .refuse fault
  | request => if found = some "" then .refuse .emptyFileName else request

/-- Reads the arguments behind `--`, none of which is an option. -/
def readValues (found : Option String) : List String → Request
  | [] => conclude found
  | argument :: rest =>
    match found with
    | some _ => .refuse (.unexpected argument .unknown)
    | none => readValues (some argument) rest

/-- Reads the arguments, given the file name found so far. -/
def readArguments (found : Option String) : List String → Request
  | [] => conclude found
  | argument :: rest =>
    match shape argument, found with
    | .separator, _ => readValues found rest
    | .option request, _ => afterName found request
    | .value, some _ => .refuse (.unexpected argument .unknown)
    | .value, none => readArguments (some argument) rest

def parse (arguments : List String) : Request := readArguments none arguments

end CommandLine

end PlanScaffold
