import AqlPipeline.Dialect
import AqlPipeline.Render.Part

/-!
# Operators

Values stay out of the query text where they come from outside: strings on the right of an
operator, and constants that something is compared with, are bound.
-/

namespace AqlPipeline.Render

open Script

/-- The right operand of an operator with a symbol. A string that is known is bound. One that
depends on the query, or is a member whose value may be looked up, is written; any other string
would put its parts into the text. -/
def rightOperand (operator : BinaryOperator) (segment : String) (right : Part) : Script :=
  if right.expr.type.isString then
    match right.expr.staticValue? with
    | some value => bindLiteral value
    | none =>
      match right.expr with
      | .memberAccess .. => right.visit segment
      | expr =>
        if expr.mentionsParameter then right.visit segment
        else .fail (.notSupported "a string operand that cannot be evaluated before the query runs")
  else
    match right.expr with
    | .constant value _ =>
      if operator.isComparison then bindLiteral value else right.visit segment
    | _ => right.visit segment

/-- A power. -/
def power (leftSegment : String) (left : Part) (rightSegment : String) (right : Part) : Script :=
  write "POW(" ++ left.visit leftSegment ++ write ", " ++ right.visit rightSegment ++ write ")"

/-- An operator between two operands. -/
def binary (operator : BinaryOperator) (leftSegment : String) (left : Part) (rightSegment : String)
    (right : Part) : Script :=
  match operator.symbol? with
  | some symbol =>
    left.visit leftSegment ++ write (" " ++ symbol ++ " ") ++
      rightOperand operator rightSegment right
  | none =>
    match operator with
    | .arrayIndex =>
      left.visit leftSegment ++ write "[" ++ right.visit rightSegment ++ write "]"
    | .powerAssign =>
      left.visit (leftSegment ++ "_0") ++ write " = " ++ power leftSegment left rightSegment right
    | _ => power leftSegment left rightSegment right

/-- An operator at its operand; `type` is that of the result. -/
def unary (dialect : Dialect) (operator : UnaryOperator) (segment : String) (operand : Part)
    (type : TypeRef) : Script :=
  let visited := operand.visit segment
  match operator with
  | .arrayLength => visited ++ write ".Length"
  | .convert | .convertChecked | .unbox =>
    if type.isAssignableFrom operand.expr.type then visited
    else write ("(" ++ dialect.typeName type ++ ")") ++ visited
  | .negate | .negateChecked => write "-" ++ visited
  | .unaryPlus => write "+" ++ visited
  | .not =>
    write (if type.isBoolean || operand.expr.type.isBoolean then "!" else "~") ++ visited
  | .onesComplement => write "~" ++ visited
  | .typeAs => visited ++ write (" as " ++ dialect.typeName type)
  | .preIncrementAssign => write "++" ++ visited
  | .preDecrementAssign => write "--" ++ visited
  | .postIncrementAssign => visited ++ write "++"
  | .postDecrementAssign => visited ++ write "--"
  | .increment => visited ++ write " += 1"
  | .decrement => visited ++ write " -= 1"
  | .isTrue => visited
  | .isFalse => write "!" ++ visited
  | .quote => .step .trim (openLines ++ visited ++ dedent)
  | .throw => write "throw " ++ visited

/-- An operator without its operand: rethrowing is the only one. -/
def bare : UnaryOperator → Script
  | .throw => write "throw"
  | operator => .fail (.missingOperand operator)

end AqlPipeline.Render
