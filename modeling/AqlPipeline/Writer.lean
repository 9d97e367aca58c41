import AqlPipeline.BindTable
import AqlPipeline.Output
import AqlPipeline.Script
import AqlPipeline.Trail

/-!
# Running scripts

A writer holds all that has been written and learnt so far. It runs scripts. A part of the
expression that is not supported is cut out again and replaced by a marker. A visit is remembered by
the size of the text where it began, and a run crashes when the text has no such place any more.
-/

namespace AqlPipeline

/-- What is learnt about the query while writing. Each is learnt once. -/
structure Facts where
  /-- The collection to iterate over. -/
  collection : Option String
  /-- The iteration variable. -/
  iterator : Option String
  /-- The name of the type of the first new object. -/
  projectionType : Option String
  deriving DecidableEq, Repr

namespace Facts

/-- Nothing is known. -/
def empty : Facts := ⟨none, none, none⟩

/-- Learns the collection. -/
def learnCollection (facts : Facts) (name : String) : Facts :=
  { facts with collection := facts.collection.or (some name) }

/-- Learns the iteration variable. -/
def learnIterator (facts : Facts) (name : String) : Facts :=
  { facts with iterator := facts.iterator.or (some name) }

/-- Learns the type of a new object. -/
def learnProjection (facts : Facts) (typeName : String) : Facts :=
  { facts with projectionType := facts.projectionType.or (some typeName) }

end Facts

/-- A part of the expression that has been replaced by a marker. -/
structure Gap where
  /-- The path of the part. -/
  path : String
  /-- What is not supported. -/
  message : String
  deriving DecidableEq, Repr

/-- All that has been written and learnt. -/
structure Writer where
  /-- The text. -/
  output : Output
  /-- The position, and the spans of text of other positions. -/
  trail : Trail
  /-- The parts that have been replaced. -/
  gaps : List Gap
  /-- The bind variables. -/
  binds : BindTable
  /-- What is known about the query. -/
  facts : Facts
  /-- The numbers of rows to leave out. -/
  skips : List Int
  /-- The iteration variable if none is declared. -/
  defaultIterator : String

/-- How running a script ends. -/
inductive Outcome where
  /-- At its end. -/
  | finished (writer : Writer)
  /-- At an error. -/
  | stopped (writer : Writer) (error : Error)
  /-- At an offset where the text cannot be cut. -/
  | crashed (writer : Writer)

namespace Writer

/-- The iteration variable as far as it is known. -/
def iterator (writer : Writer) : String :=
  writer.facts.iterator.getD writer.defaultIterator

/-- Changes the text. -/
def onOutput (writer : Writer) (change : Output → Output) : Writer :=
  { writer with output := change writer.output }

/-- Adds text. -/
def append (writer : Writer) (text : String) : Writer :=
  writer.onOutput (·.append text)

/-- The name under which values without a name are bound. -/
def literalName : String := "p"

/-- Binds a value that has no name, and refers to it. -/
def bindLiteral (writer : Writer) (value : Json) : Writer :=
  let (name, binds) := writer.binds.register literalName value
  { writer with binds }.append ("@" ++ name)

/-- Binds a value that has a name, and refers to it. -/
def bindNamed (writer : Writer) (name : String) (value : Json) : Writer :=
  let (name, binds) := writer.binds.registerNamed name value
  { writer with binds }.append ("@" ++ name)

/-- Takes a step. -/
def apply (writer : Writer) : Step → Writer
  | .write text => writer.append text
  | .delimit delimiter => writer.onOutput (·.delimit delimiter)
  | .breakLine => writer.onOutput Output.breakLine
  | .trim => writer.onOutput Output.trimEnd
  | .indent => writer.onOutput Output.indent
  | .dedent => writer.onOutput Output.dedent
  | .bindLiteral value => writer.bindLiteral value
  | .bindNamed name value => writer.bindNamed name value
  | .declare parameter =>
    { writer with
      facts := (writer.facts.learnCollection parameter.type.name).learnIterator parameter.name }
  | .project typeName => { writer with facts := writer.facts.learnProjection typeName }
  | .yieldIterator => writer.append ("\nRETURN " ++ writer.iterator)
  | .skip count => { writer with skips := writer.skips ++ [count] }

/-! ## Visits -/

/-- A text in one line: line breaks become spaces. -/
def oneLine (text : String) : String :=
  String.ofList <| text.toList.map fun char =>
    if char == '\r' || char == '\n' then ' ' else char

/-- What stands in place of a part that is not supported. -/
def marker (message : String) : String :=
  "\n// NOT IMPLEMENTED: " ++ message ++ "\n"

/-- What has to be remembered from the start of a visit to its end. -/
structure Mark where
  /-- The segment of the path. -/
  segment : String
  /-- Whether the segment has been entered: blank ones are not. -/
  entered : Bool
  /-- The size of the text. -/
  size : Nat
  /-- The level of indentation. -/
  indentation : Nat
  /-- How many numbers of rows to leave out there were. -/
  skips : Nat
  deriving DecidableEq, Repr

/-- What has to be remembered when a segment is visited. -/
def mark (writer : Writer) (segment : String) : Mark where
  segment
  entered := (writer.trail.push segment).1
  size := writer.output.size
  indentation := writer.output.indentation
  skips := writer.skips.length

/-- Enters a segment of the path. -/
def enter (writer : Writer) (segment : String) : Writer :=
  { writer with trail := (writer.trail.push segment).2 }

/-- Puts a marker behind what is kept of the text at the mark. Bind variables, facts and the gaps
inside stay. -/
def withMarker (mark : Mark) (writer : Writer) (kept : Output) (thing : String) : Writer :=
  let message := oneLine thing
  { writer with
    output := { kept with indentation := mark.indentation }.append (marker message)
    trail := writer.trail.discardFrom mark.size
    gaps := writer.gaps ++ [⟨writer.trail.path, message⟩]
    skips := writer.skips.take mark.skips }

/-- Replaces all that has been written since the mark by a marker, if the text can be cut there. -/
def recover? (mark : Mark) (writer : Writer) (thing : String) : Option Writer :=
  (writer.output.truncate? mark.size).map fun kept => withMarker mark writer kept thing

/-- Leaves the marked segment, and records what it produced: the text behind the mark, which must
not have been cut away. -/
def leave (mark : Mark) (writer : Writer) : Outcome :=
  if writer.output.size < mark.size then .crashed writer
  else
    let span : Span := ⟨mark.size, writer.output.size - mark.size⟩
    let writer := { writer with trail := writer.trail.record span }
    if mark.entered then
      match writer.trail.pop mark.segment with
      | .ok trail => .finished { writer with trail }
      | .error error => .stopped writer error
    else .finished writer

/-- Ends the visit of the marked segment. -/
def close (mark : Mark) : Outcome → Outcome
  | .finished writer => leave mark writer
  | .stopped writer (.notSupported thing) =>
    match recover? mark writer thing with
    | some replaced => leave mark replaced
    | none => .crashed writer
  | .stopped writer error => .stopped writer error
  | .crashed writer => .crashed writer

/-- Runs a script. -/
def run : Script → Writer → Outcome
  | .done, writer => .finished writer
  | .fail error, writer => .stopped writer error
  | .step first rest, writer => run rest (writer.apply first)
  | .visit segment body rest, writer =>
    match close (writer.mark segment) (run body (writer.enter segment)) with
    | .finished writer => run rest writer
    | .stopped writer error => .stopped writer error
    | .crashed writer => .crashed writer

/-- Inserts text behind the first occurrence of a token, with the spans adjusted to it, and tells
where. -/
def insertBehind? (writer : Writer) (token text : String) : Option (Nat × Writer) :=
  (writer.output.insertBehind? token text).map fun (place, output) =>
    (place, { writer with output, trail := writer.trail.shift place text.utf8ByteSize })

end Writer

end AqlPipeline
