/-!
# Placements

Where a block stands decides whether it is written as statements or as a sequence of expressions.
-/

namespace AqlPipeline

/-- What a block is written as. -/
inductive BlockForm where
  /-- A part of an expression. -/
  | inline
  /-- The test of a conditional, a switch or a filter. -/
  | test
  /-- A sequence of statements. -/
  | statements
  /-- A sequence of statements, the last of which gives the result. -/
  | returning
  deriving DecidableEq, Repr

/-- Where a block stands. -/
structure Placement where
  /-- What it is written as. -/
  form : BlockForm := .inline
  /-- Whether it stands directly in another block. -/
  nested : Bool := false
  deriving DecidableEq, Repr

end AqlPipeline
