/-
  PlanScaffold/Text/ControlSequence.lean
  ======================================
  **What a terminal would show of a text.**

  A terminal does not show every character that it is sent.  Escape opens a sequence
  that changes colours, moves the cursor or sets a title, and most control characters act
  without a glyph.  `visible` leaves both out, so that a text from outside cannot do
  more to the reader's terminal than be read.

  The sequences are read as a terminal reads them, one character after the other.  Cancel
  and Substitute break every sequence off, and Escape begins a new one wherever it stands.
-/
import PlanScaffold.Text.Utf8

namespace PlanScaffold.Text

namespace ControlSequence

/-- Where a terminal stands between two characters. -/
inductive Place where
  /-- In the text itself. -/
  | text
  /-- Behind Escape. -/
  | escape
  /-- Within an escape sequence of more than one character. -/
  | intermediate
  /-- Within a control sequence: parameters, up to a letter. -/
  | control
  /-- Before the first parameter of a device control string. -/
  | deviceStart
  /-- Among the parameters of a device control string. -/
  | deviceParameters
  /-- Between the parameters of a device control string and the letter that ends its head. -/
  | deviceIntermediate
  /-- Within the body of a control string. -/
  | string
  /-- Within a command to the operating system, which the bell ends. -/
  | command
deriving DecidableEq, Repr

/-- Whether the character, Escape, opens a sequence. -/
def isOpening (c : Char) : Bool := c == '\x1b'

/-- Whether the character, Cancel or Substitute, breaks a sequence off. -/
def isAbort (c : Char) : Bool := c == '\x18' || c == '\x1a'

/-- Whether the character moves to another place of the page: tab, line feed, form feed and
    carriage return. -/
def isLayout (c : Char) : Bool := c == '\t' || c == '\n' || c == '\x0c' || c == '\r'

/-- Whether the character is shown where it stands in the text itself. -/
def isShown (c : Char) : Bool := isLayout c || (' ' ≤ c && c != '\x7f')

/-- Whether the code point of the character is from `first` to `last`. -/
def within (first last : Nat) (c : Char) : Bool := first ≤ c.toNat && c.toNat ≤ last

/-- Whether the character is shown at the place.  Layout is also shown within escape sequences
    and control sequences. -/
def Place.shows : Place → Char → Bool
  | .text, c => isShown c
  | .escape, c | .intermediate, c | .control, c => isLayout c
  | _, _ => false

/-- Whether the character ends a control string.  The terminator is a byte, and a
    terminal finds it also within the bytes of a longer character. -/
def endsString (c : Char) : Bool := (Utf8.encode (String.singleton c)).contains 0x9C

/-- The place after a character that is not shown, nor opens a sequence, nor breaks one off. -/
def Place.next (place : Place) (c : Char) : Place :=
  match place with
  | .text => .text
  | .escape =>
    if c = 'P' then .deviceStart
    else if c = 'X' ∨ c = '^' ∨ c = '_' then .string
    else if c = '[' then .control
    else if c = ']' then .command
    else if within 0x20 0x2F c then .intermediate
    else if within 0x30 0x7E c then .text
    else .escape
  | .intermediate => if within 0x30 0x7E c then .text else .intermediate
  | .control => if within 0x40 0x7E c then .text else .control
  | .deviceStart =>
    if within 0x20 0x2F c then .deviceIntermediate
    else if within 0x30 0x3F c then .deviceParameters
    else if within 0x40 0x7E c then .string
    else .deviceStart
  | .deviceParameters =>
    if within 0x20 0x2F c then .deviceIntermediate
    else if within 0x3C 0x7E c then .string
    else .deviceParameters
  | .deviceIntermediate => if within 0x30 0x7E c then .string else .deviceIntermediate
  | .string => if endsString c then .text else .string
  | .command => if c = '\x07' then .text else .command

/-- What is shown of the characters behind a place.  Layout within a sequence pauses it
    (`paused`): the characters that follow are shown up to the next that cannot be, and only then
    the sequence goes on.  A character beyond ASCII among them ends it. -/
def visibleFrom (place : Place) (paused : Bool) : List Char → List Char
  | [] => []
  | c :: rest =>
    if isOpening c then visibleFrom .escape false rest
    else if isAbort c then visibleFrom .text false rest
    else if paused then
      if isShown c then
        c :: visibleFrom (if within 0x80 0x10FFFF c then .text else place) true rest
      else visibleFrom place false rest
    else if place.shows c then c :: visibleFrom place true rest
    else visibleFrom (place.next c) false rest

end ControlSequence

/-- A text as a terminal would show it. -/
def visible (text : String) : String :=
  String.ofList (ControlSequence.visibleFrom .text false text.toList)

end PlanScaffold.Text
