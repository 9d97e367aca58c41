import AqlPipeline.Double.Decimal
import AqlPipeline.Json.Basic

/-!
# JSON as text

The compact form has no blanks; the indented form puts every item and member on a line of its own,
two spaces deeper than the bracket around it.
-/

namespace AqlPipeline.Json

/-- The digit of a number below sixteen, in lower case. -/
def hexDigit (number : Nat) : Char :=
  Nat.digitChar number

/-- A character inside a string: quotes, backslashes and control characters are escaped. -/
def escape (char : Char) : List Char :=
  match char with
  | '\x22' => ['\\', '\x22']
  | '\\' => ['\\', '\\']
  | '\x08' => ['\\', 'b']
  | '\x0c' => ['\\', 'f']
  | '\n' => ['\\', 'n']
  | '\r' => ['\\', 'r']
  | '\t' => ['\\', 't']
  | _ =>
    if char.toNat < 0x20 then
      ['\\', 'u', '0', '0', hexDigit (char.toNat / 16), hexDigit (char.toNat % 16)]
    else [char]

/-- A string with its quotes. -/
def quote (text : String) : String :=
  String.ofList ('\x22' :: text.toList.flatMap escape ++ ['\x22'])

/-- The text of a value that is neither an array nor an object. -/
def scalarText : Json → String
  | .null => "null"
  | .bool true => "true"
  | .bool false => "false"
  | .integer value => toString value
  | .float value => value.toText
  | .string value => quote value
  | .array _ => "[]"
  | .object _ => "\x7b\x7d"

mutual

/-- The compact text of a value. -/
def compact : Json → String
  | .array items => "[" ++ compactItems items ++ "]"
  | .object members => "\x7b" ++ compactMembers members ++ "\x7d"
  | value => scalarText value

/-- The compact texts of some values, divided by commas. -/
def compactItems : List Json → String
  | [] => ""
  | [item] => compact item
  | item :: items => compact item ++ "," ++ compactItems items

/-- The compact texts of some members, divided by commas. -/
def compactMembers : List (String × Json) → String
  | [] => ""
  | [(name, value)] => quote name ++ ":" ++ compact value
  | (name, value) :: members =>
    quote name ++ ":" ++ compact value ++ "," ++ compactMembers members

end

/-- A line feed and two spaces for each level. -/
def newLine (level : Nat) : String :=
  "\n" ++ String.ofList (List.replicate (2 * level) ' ')

mutual

/-- The indented text of a value at a level. -/
def indented (level : Nat) : Json → String
  | .array [] => "[]"
  | .array items => "[" ++ indentedItems (level + 1) items ++ newLine level ++ "]"
  | .object [] => "\x7b\x7d"
  | .object members => "\x7b" ++ indentedMembers (level + 1) members ++ newLine level ++ "\x7d"
  | value => scalarText value

/-- The indented texts of some values, each on a line of its own. -/
def indentedItems (level : Nat) : List Json → String
  | [] => ""
  | [item] => newLine level ++ indented level item
  | item :: items => newLine level ++ indented level item ++ "," ++ indentedItems level items

/-- The indented texts of some members, each on a line of its own. -/
def indentedMembers (level : Nat) : List (String × Json) → String
  | [] => ""
  | [(name, value)] => newLine level ++ quote name ++ ": " ++ indented level value
  | (name, value) :: members =>
    newLine level ++ quote name ++ ": " ++ indented level value ++ "," ++
      indentedMembers level members

end

/-- The indented text of a value. -/
def pretty (value : Json) : String :=
  indented 0 value

end AqlPipeline.Json
