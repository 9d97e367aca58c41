import AqlPipeline.Render.Expr
import AqlPipeline.Settings.Basic
import AqlPipeline.Writer

/-!
# Queries

A pipeline becomes the body of a loop over a collection. Rows to leave out go in front of the number
of rows to take, and a query that does not return anything returns the iteration variable.
-/

namespace AqlPipeline

/-- A query, with all that is needed to run it. -/
structure Query where
  /-- The text. -/
  text : String
  /-- The bind variables, in order of registration. -/
  binds : List (String × Json)
  /-- The text of each path, if it was asked for. -/
  spans : Option (List (String × Span))
  /-- The parts of the pipeline that have been replaced by a marker. -/
  gaps : List Gap
  /-- The name of the type of the first new object. -/
  projectionType : Option String

namespace Writer

/-- Nothing written yet. -/
def start (settings : Settings) : Writer where
  output := .empty settings.pretty
  trail := .start settings.trackPathSpans
  gaps := []
  binds := .empty
  facts := { Facts.empty with collection := settings.collection }
  skips := []
  defaultIterator := settings.defaultIterator

/-- What the numbers of a limit are behind. -/
def limitToken : String := "LIMIT "

/-- Puts a number of rows to leave out into the first limit, if there is one. -/
def patchSkip (writer : Writer) (count : Int) : Writer :=
  match writer.insertBehind? limitToken (toString count ++ ", ") with
  | some (_, patched) => patched
  | none => writer

/-- Puts all numbers of rows to leave out into the first limit. -/
def patchSkips (writer : Writer) : Writer :=
  writer.skips.foldl patchSkip writer

/-- The head of the loop around the body. -/
def header (writer : Writer) : String :=
  "FOR " ++ writer.iterator ++ " IN " ++ writer.facts.collection.getD ""

/-- What is returned by a body that does not return anything. -/
def footer (writer : Writer) : String :=
  if writer.output.contains "return" then "" else "\nRETURN " ++ writer.iterator

/-- The query with the text so far as its body. -/
def finish (writer : Writer) : Query :=
  let patched := writer.patchSkips
  { text := patched.header ++ patched.output.text ++ patched.footer
    binds := patched.binds.entries
    spans := (patched.trail.shiftAll patched.header.utf8ByteSize).spans
    gaps := patched.gaps
    projectionType := patched.facts.projectionType }

end Writer

/-- Why there is no query. -/
inductive Failure where
  /-- The pipeline cannot be written. -/
  | refused (error : Error)
  /-- The writer has crashed. -/
  | crashed
  deriving DecidableEq, Repr

namespace Query

/-- Whether nothing has been replaced by a marker. -/
def isComplete (query : Query) : Bool :=
  query.gaps.isEmpty

/-- The text of a path. -/
def textAt? (query : Query) (path : String) : Option String := do
  let span ← findSpan? path (← query.spans)
  Text.slice? query.text span.offset span.length

/-- Writes a pipeline as a query. -/
def compile (dialect : Dialect) (settings : Settings) (expr : Expr) : Except Failure Query :=
  match Writer.run (.enter "" (expr.script dialect {})) (.start settings) with
  | .finished writer => .ok writer.finish
  | .stopped _ error => .error (.refused error)
  | .crashed _ => .error .crashed

end Query

end AqlPipeline
