import AqlPipeline.Placement
import AqlPipeline.Script

/-!
# Parts of an expression

What the text of an expression is made of: its parts, each with what writing it does.
-/

namespace AqlPipeline

/-- A part of an expression. -/
structure Part where
  /-- The part itself. -/
  expr : Expr
  /-- What writing it at a place does. -/
  scriptAt : Placement → Script

namespace Part

/-- What writing the part inside of an expression does. -/
def script (part : Part) : Script :=
  part.scriptAt {}

/-- Visits the part at a segment. -/
def visit (segment : String) (part : Part) : Script :=
  .enter segment part.script

/-- Visits the part at a segment, where it stands as the placement says. -/
def visitAs (segment : String) (placement : Placement) (part : Part) : Script :=
  .enter segment (part.scriptAt placement)

/-- Whether the part is a new array made of items. -/
def isItems (part : Part) : Bool :=
  match part.expr with
  | .newArray .init _ _ => true
  | _ => false

/-- The parts in one line, with commas between them. -/
def inLine (base : String) (parts : List Part) : Script :=
  .inLine base ", " (parts.map script)

end Part

end AqlPipeline
