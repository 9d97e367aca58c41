/-!
# Text without terminal controls

Terminals take some characters as controls: single ones, and sequences that start with an escape
character. Text that does not go to a terminal is printed without them.
-/

namespace AqlPipeline.Text

/-- The part of a control sequence that has been read. -/
inductive ControlState where
  /-- None. -/
  | ground
  /-- The escape character. -/
  | escape
  /-- An escape sequence with intermediate characters. -/
  | escapeIntermediate
  /-- The introducer of a control sequence, and perhaps parameters. -/
  | sequence
  /-- The introducer of a string for the device. -/
  | deviceEntry
  /-- The introducer of a string for the device, and parameters. -/
  | deviceParameters
  /-- The introducer of a string for the device, and intermediate characters. -/
  | deviceIntermediate
  /-- A part of a string that ends with a string terminator. -/
  | string
  /-- A part of a system command, which ends with a bell. -/
  | command
  deriving DecidableEq, Repr

namespace ControlState

/-- Whether a character is in a range of code points. -/
def within (first last : Nat) (char : Char) : Bool :=
  first ≤ char.toNat && char.toNat ≤ last

/-- Whether the UTF-8 form of a character has a byte that terminates strings. -/
def terminates (char : Char) : Bool :=
  (String.utf8EncodeChar char).contains 0x9C

/-- The state behind a character that starts or continues an escape sequence. -/
def escaped (char : Char) : ControlState :=
  if within 0x20 0x2F char then .escapeIntermediate
  else if char == '[' then .sequence
  else if char == ']' then .command
  else if char == 'P' then .deviceEntry
  else if char == 'X' || char == '^' || char == '_' then .string
  else if within 0x30 0x7E char then .ground
  else .escape

/-- The state behind a character. An escape character starts anew, and two others cancel. -/
def next (state : ControlState) (char : Char) : ControlState :=
  if char == '\x1b' then .escape
  else if char == '\x18' || char == '\x1a' then .ground
  else
    match state with
    | .ground => .ground
    | .escape => escaped char
    | .escapeIntermediate => if within 0x30 0x7E char then .ground else state
    | .sequence => if within 0x40 0x7E char then .ground else state
    | .deviceEntry =>
      if within 0x20 0x2F char then .deviceIntermediate
      else if within 0x30 0x3F char then .deviceParameters
      else if within 0x40 0x7E char then .string
      else state
    | .deviceParameters =>
      if within 0x20 0x2F char then .deviceIntermediate
      else if within 0x3C 0x7E char then .string
      else state
    | .deviceIntermediate => if within 0x30 0x7E char then .string else state
    | .string => if terminates char then .ground else state
    | .command => if char == '\x07' then .ground else state

/-- Whether a character is a control that moves to another place in the text. -/
def isMotion (char : Char) : Bool :=
  char == '\t' || char == '\n' || char == '\x0c' || char == '\r'

/-- Whether a character is printed. Motions are also printed inside of sequences, but not inside of
strings. -/
def prints (state : ControlState) (char : Char) : Bool :=
  match state with
  | .ground => isMotion char || (0x20 ≤ char.toNat && char.toNat != 0x7F)
  | .escape | .escapeIntermediate | .sequence => isMotion char
  | _ => false

end ControlState

/-- The printed characters behind a state; `printing` tells whether the last character was printed.
Then text goes on as far as it can, and only the control that ends it takes up a sequence that was
interrupted by a motion. -/
def printed : (state : ControlState) → (printing : Bool) → List Char → List Char
  | _, _, [] => []
  | state, printing, char :: chars =>
    if (if printing then ControlState.ground else state).prints char then
      char :: printed (if char.toNat < 0x80 then state else .ground) true chars
    else printed (state.next char) false chars

/-- A text without terminal controls. -/
def plain (text : String) : String :=
  String.ofList (printed .ground true text.toList)

end AqlPipeline.Text
