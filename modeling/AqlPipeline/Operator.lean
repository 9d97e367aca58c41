import AqlPipeline.Json.Record

/-!
# Operators

The binary and unary operators of expressions, their words, and the symbols that the binary ones
have in a query.
-/

namespace AqlPipeline

/-- A word with a capital first letter, as operators and operations are named in messages. -/
def capitalized (word : String) : String :=
  match word.toList with
  | [] => ""
  | first :: rest => String.ofList (first.toUpper :: rest)

/-- A binary operator. -/
inductive BinaryOperator where
  | add
  | addChecked
  | divide
  | modulo
  | multiply
  | multiplyChecked
  | power
  | subtract
  | subtractChecked
  | and
  | or
  | exclusiveOr
  | leftShift
  | rightShift
  | andAlso
  | orElse
  | equal
  | notEqual
  | greaterThanOrEqual
  | greaterThan
  | lessThan
  | lessThanOrEqual
  | coalesce
  | arrayIndex
  | assign
  | addAssign
  | addAssignChecked
  | divideAssign
  | moduloAssign
  | multiplyAssign
  | multiplyAssignChecked
  | powerAssign
  | subtractAssign
  | subtractAssignChecked
  | andAssign
  | orAssign
  | exclusiveOrAssign
  | leftShiftAssign
  | rightShiftAssign
  deriving DecidableEq, Repr

instance : Json.Words BinaryOperator where
  all := [.add, .addChecked, .divide, .modulo, .multiply, .multiplyChecked, .power, .subtract,
    .subtractChecked, .and, .or, .exclusiveOr, .leftShift, .rightShift, .andAlso, .orElse, .equal,
    .notEqual, .greaterThanOrEqual, .greaterThan, .lessThan, .lessThanOrEqual, .coalesce,
    .arrayIndex, .assign, .addAssign, .addAssignChecked, .divideAssign, .moduloAssign,
    .multiplyAssign, .multiplyAssignChecked, .powerAssign, .subtractAssign, .subtractAssignChecked,
    .andAssign, .orAssign, .exclusiveOrAssign, .leftShiftAssign, .rightShiftAssign]
  word
    | .add => "add"
    | .addChecked => "addChecked"
    | .divide => "divide"
    | .modulo => "modulo"
    | .multiply => "multiply"
    | .multiplyChecked => "multiplyChecked"
    | .power => "power"
    | .subtract => "subtract"
    | .subtractChecked => "subtractChecked"
    | .and => "and"
    | .or => "or"
    | .exclusiveOr => "exclusiveOr"
    | .leftShift => "leftShift"
    | .rightShift => "rightShift"
    | .andAlso => "andAlso"
    | .orElse => "orElse"
    | .equal => "equal"
    | .notEqual => "notEqual"
    | .greaterThanOrEqual => "greaterThanOrEqual"
    | .greaterThan => "greaterThan"
    | .lessThan => "lessThan"
    | .lessThanOrEqual => "lessThanOrEqual"
    | .coalesce => "coalesce"
    | .arrayIndex => "arrayIndex"
    | .assign => "assign"
    | .addAssign => "addAssign"
    | .addAssignChecked => "addAssignChecked"
    | .divideAssign => "divideAssign"
    | .moduloAssign => "moduloAssign"
    | .multiplyAssign => "multiplyAssign"
    | .multiplyAssignChecked => "multiplyAssignChecked"
    | .powerAssign => "powerAssign"
    | .subtractAssign => "subtractAssign"
    | .subtractAssignChecked => "subtractAssignChecked"
    | .andAssign => "andAssign"
    | .orAssign => "orAssign"
    | .exclusiveOrAssign => "exclusiveOrAssign"
    | .leftShiftAssign => "leftShiftAssign"
    | .rightShiftAssign => "rightShiftAssign"

namespace BinaryOperator

/-- Whether the operator compares its operands. -/
def isComparison : BinaryOperator → Bool
  | .equal | .notEqual | .greaterThanOrEqual | .greaterThan | .lessThan | .lessThanOrEqual => true
  | _ => false

/-- The symbol of an operator that is written between its operands. Powers and array elements are
written otherwise. -/
def symbol? : BinaryOperator → Option String
  | .add | .addChecked => some "+"
  | .divide => some "/"
  | .modulo => some "%"
  | .multiply | .multiplyChecked => some "*"
  | .subtract | .subtractChecked => some "-"
  | .and => some "&"
  | .or => some "|"
  | .exclusiveOr => some "^"
  | .andAlso => some "&&"
  | .orElse => some "||"
  | .equal => some "=="
  | .notEqual => some "!="
  | .greaterThanOrEqual => some ">="
  | .greaterThan => some ">"
  | .lessThan => some "<"
  | .lessThanOrEqual => some "<="
  | .coalesce => some "??"
  | .leftShift => some "<<"
  | .rightShift => some ">>"
  | .assign => some "="
  | .addAssign | .addAssignChecked => some "+="
  | .andAssign => some "&="
  | .divideAssign => some "/="
  | .exclusiveOrAssign => some "^="
  | .leftShiftAssign => some "<<="
  | .moduloAssign => some "%="
  | .multiplyAssign | .multiplyAssignChecked => some "*="
  | .orAssign => some "|="
  | .rightShiftAssign => some ">>="
  | .subtractAssign | .subtractAssignChecked => some "-="
  | .power | .powerAssign | .arrayIndex => none

end BinaryOperator

/-- A unary operator. -/
inductive UnaryOperator where
  | arrayLength
  | convert
  | convertChecked
  | unbox
  | negate
  | negateChecked
  | unaryPlus
  | not
  | onesComplement
  | typeAs
  | isTrue
  | isFalse
  | preIncrementAssign
  | preDecrementAssign
  | postIncrementAssign
  | postDecrementAssign
  | increment
  | decrement
  | throw
  /-- The operand is a lambda that is passed on as data. -/
  | quote
  deriving DecidableEq, Repr

instance : Json.Words UnaryOperator where
  all := [.arrayLength, .convert, .convertChecked, .unbox, .negate, .negateChecked, .unaryPlus,
    .not, .onesComplement, .typeAs, .isTrue, .isFalse, .preIncrementAssign, .preDecrementAssign,
    .postIncrementAssign, .postDecrementAssign, .increment, .decrement, .throw, .quote]
  word
    | .arrayLength => "arrayLength"
    | .convert => "convert"
    | .convertChecked => "convertChecked"
    | .unbox => "unbox"
    | .negate => "negate"
    | .negateChecked => "negateChecked"
    | .unaryPlus => "unaryPlus"
    | .not => "not"
    | .onesComplement => "onesComplement"
    | .typeAs => "typeAs"
    | .isTrue => "isTrue"
    | .isFalse => "isFalse"
    | .preIncrementAssign => "preIncrementAssign"
    | .preDecrementAssign => "preDecrementAssign"
    | .postIncrementAssign => "postIncrementAssign"
    | .postDecrementAssign => "postDecrementAssign"
    | .increment => "increment"
    | .decrement => "decrement"
    | .throw => "throw"
    | .quote => "quote"

namespace UnaryOperator

/-- Whether the operator only changes the type of its operand. -/
def isConversion : UnaryOperator → Bool
  | .convert | .convertChecked | .unbox => true
  | _ => false

/-- The name of the operator in messages. -/
def title (operator : UnaryOperator) : String :=
  capitalized (Json.Words.word operator)

end UnaryOperator

end AqlPipeline
