import AqlPipeline.Error
import AqlPipeline.Text.Blank

/-!
# Positions in the tree

A trail is the path of the position that is being written, and for every path the part of the text
that it produced, if those are recorded.
-/

namespace AqlPipeline

/-- A part of a text, in bytes. -/
structure Span where
  /-- Where it starts. -/
  offset : Nat
  /-- How long it is. -/
  length : Nat
  deriving DecidableEq, Repr

/-- Where a part of a text ends. -/
def Span.stop (span : Span) : Nat :=
  span.offset + span.length

/-- The span after an insertion of `count` bytes at `place`: one behind moves, one around grows. -/
def Span.shift (place count : Nat) (span : Span) : Span :=
  if place ≤ span.offset then ⟨span.offset + count, span.length⟩
  else if place < span.stop then ⟨span.offset, span.length + count⟩
  else span

/-- Sets the span of a path: in place if it has one, else at the end. -/
def setSpan (path : String) (span : Span) : List (String × Span) → List (String × Span)
  | [] => [(path, span)]
  | (other, old) :: spans =>
    if other = path then (other, span) :: spans else (other, old) :: setSpan path span spans

/-- The span of a path. -/
def findSpan? (path : String) : List (String × Span) → Option Span
  | [] => none
  | (other, span) :: spans => if other = path then some span else findSpan? path spans

/-- The position being written, and what other positions have produced. -/
structure Trail where
  /-- The segments of the path, the last one first. -/
  segments : List String
  /-- The span of each path, in order of recording, unless spans are not recorded. -/
  spans : Option (List (String × Span))
  deriving DecidableEq, Repr

namespace Trail

/-- The start of the tree. -/
def start (record : Bool) : Trail :=
  ⟨[], if record then some [] else none⟩

/-- Enters a segment, unless it is blank, and tells whether it did. -/
def push (trail : Trail) (segment : String) : Bool × Trail :=
  if Text.isAllBlank segment then (false, trail)
  else (true, { trail with segments := segment :: trail.segments })

/-- Leaves a segment, which has to be the last one entered. -/
def pop (trail : Trail) (segment : String) : Except Error Trail :=
  match trail.segments with
  | [] => .error (.invalidPath segment "")
  | last :: segments =>
    if last = segment then .ok { trail with segments }
    else .error (.invalidPath segment last)

/-- The segments of the path, joined by points. -/
def path (trail : Trail) : String :=
  ".".intercalate trail.segments.reverse

/-- Applies a function to the spans, if they are recorded. -/
def mapSpans (trail : Trail) (change : List (String × Span) → List (String × Span)) : Trail :=
  { trail with spans := trail.spans.map change }

/-- Records what the current path has produced. -/
def record (trail : Trail) (span : Span) : Trail :=
  trail.mapSpans fun spans => setSpan trail.path span spans

/-- Forgets the spans that start at an offset or behind it. -/
def discardFrom (trail : Trail) (offset : Nat) : Trail :=
  trail.mapSpans fun spans => spans.filter fun entry => entry.2.offset < offset

/-- Adjusts the spans to an insertion of `count` bytes at `place`. -/
def shift (trail : Trail) (place count : Nat) : Trail :=
  trail.mapSpans fun spans => spans.map fun entry => (entry.1, entry.2.shift place count)

/-- Adjusts the spans to `count` bytes put in front of the text. -/
def shiftAll (trail : Trail) (count : Nat) : Trail :=
  trail.shift 0 count

end Trail

end AqlPipeline
