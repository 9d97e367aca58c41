import AqlPipeline.Text.Blank
import AqlPipeline.Text.Caseless
import AqlPipeline.Text.Utf8

/-!
# The text being written

Compact text has no line breaks but those of clauses. Pretty text breaks lines where it is asked to
and indents them. The level of indentation is counted for both.
-/

namespace AqlPipeline

/-- A text being written. -/
structure Output where
  /-- The text so far. -/
  text : String
  /-- The level of indentation. -/
  indentation : Nat
  /-- Whether lines are broken and indented. -/
  pretty : Bool
  deriving DecidableEq, Repr

namespace Output

/-- Nothing yet. -/
def empty (pretty : Bool) : Output := ⟨"", 0, pretty⟩

/-- The number of bytes so far. -/
def size (output : Output) : Nat :=
  output.text.utf8ByteSize

/-- Adds text at the end. -/
def append (output : Output) (text : String) : Output :=
  { output with text := output.text ++ text }

/-- One level deeper. -/
def indent (output : Output) : Output :=
  { output with indentation := output.indentation + 1 }

/-- One level less deep, if there is one. -/
def dedent (output : Output) : Output :=
  { output with indentation := output.indentation - 1 }

/-- The spaces in front of a line at a level. -/
def margin (level : Nat) : String :=
  String.ofList (List.replicate (4 * level) ' ')

/-- In pretty text, starts a new line at the current level. -/
def breakLine (output : Output) : Output :=
  if output.pretty then output.append ("\n" ++ margin output.indentation) else output

/-- In pretty text, drops the spaces at the end. -/
def trimEnd (output : Output) : Output :=
  if output.pretty then
    { output with
      text := String.ofList (Text.dropRightWhile (· == ' ') output.text.toList) }
  else output

/-- Adds a delimiter. In pretty text, its blanks at the end give way to a line break. -/
def delimit (output : Output) (delimiter : String) : Output :=
  if output.pretty then (output.append (Text.trimRight delimiter)).breakLine
  else output.append delimiter

/-- Drops what is behind an offset, which must not be inside of a character. -/
def truncate? (output : Output) (offset : Nat) : Option Output :=
  if output.size ≤ offset then some output
  else
    (Text.splitBytes? offset output.text.toList).map fun (kept, _) =>
      { output with text := String.ofList kept }

/-- The offset of the first occurrence of a token, ignoring ASCII case. -/
def find? (output : Output) (token : String) : Option Nat :=
  (Text.splitBefore? token.toList output.text.toList).map fun (before, _) => Text.byteSize before

/-- Whether a token occurs, ignoring ASCII case. -/
def contains (output : Output) (token : String) : Bool :=
  Text.occursIn token.toList output.text.toList

/-- Inserts text behind the first occurrence of a token, ignoring ASCII case, and tells where. -/
def insertBehind? (output : Output) (token text : String) : Option (Nat × Output) :=
  (Text.splitBehind? token.toList output.text.toList).map fun (before, after) =>
    (Text.byteSize before,
      { output with text := String.ofList (before ++ text.toList ++ after) })

end Output

end AqlPipeline
