import AqlPipeline.Expr.Words
import AqlPipeline.Render.Construct
import AqlPipeline.Render.Operator

/-!
# Operations bound while the query runs

The receiver is the first argument.
-/

namespace AqlPipeline.Render

open Script

/-- The segment of an argument. -/
def argumentSegment (index : Nat) : String :=
  numbered "Arguments" index

/-- The wrong number of arguments. -/
def miscounted (operation : LateOperation) (expected : Arity) (arguments : List Part) : Script :=
  .fail (.argumentCount operation.title expected arguments.length)

/-- The arguments numbered from `index` on, with commas between them. -/
def argumentsFrom (index : Nat) (arguments : List Part) : Script :=
  join (write ", ") (keys index arguments)

/-- An operation that is bound while the query runs; `type` is that of its result. -/
def late (dialect : Dialect) (operation : LateOperation) (arguments : List Part) (type : TypeRef) :
    Script :=
  match operation, arguments with
  | .binaryOp operator, [left, right] =>
    binary operator (argumentSegment 0) left (argumentSegment 1) right
  | .binaryOp _, _ => miscounted operation (.exactly 2) arguments
  | .convert target, [operand] => unary dialect .convert (argumentSegment 0) operand target
  | .convert _, _ => miscounted operation (.exactly 1) arguments
  | .unaryOp operator, [operand] => unary dialect operator (argumentSegment 0) operand type
  | .unaryOp _, _ => miscounted operation (.exactly 1) arguments
  | .createInstance, _ => constructed arguments
  | .deleteIndex, _ => .fail (.notSupported "deleting an index")
  | .deleteMember name, _ => .fail (.notSupported ("deleting the member '" ++ name ++ "'"))
  | .getIndex, receiver :: key :: others =>
    element (argumentSegment 0) receiver (keys 1 (key :: others))
  | .getIndex, _ => miscounted operation (.atLeast 2) arguments
  | .getMember name, [receiver] => receiver.visit (argumentSegment 0) ++ write ("." ++ name)
  | .getMember _, _ => miscounted operation (.exactly 1) arguments
  | .invoke, receiver :: others =>
    receiver.visit (argumentSegment 0) ++ write "(" ++ argumentsFrom 1 others ++ write ")"
  | .invoke, _ => miscounted operation (.atLeast 1) arguments
  | .invokeMember name, receiver :: others =>
    receiver.visit (argumentSegment 0) ++ write ("." ++ name ++ "(") ++ argumentsFrom 1 others ++
      write ")"
  | .invokeMember _, _ => miscounted operation (.atLeast 1) arguments
  | .setIndex, receiver :: value :: key :: others =>
    element (argumentSegment 0) receiver (keys 2 (key :: others)) ++ write " = " ++
      value.visit (argumentSegment 1)
  | .setIndex, _ => miscounted operation (.atLeast 3) arguments
  | .setMember name, [receiver, value] =>
    receiver.visit (argumentSegment 0) ++ write ("." ++ name ++ " = ") ++
      value.visit (argumentSegment 1)
  | .setMember _, _ => miscounted operation (.exactly 2) arguments

end AqlPipeline.Render
