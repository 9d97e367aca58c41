import AqlPipeline.FormatString
import AqlPipeline.Operator

/-!
# Why an expression cannot be written

All but one of these end the writing. What is only not supported is replaced by a marker, and the
writing goes on.
-/

namespace AqlPipeline

/-- How many arguments are expected. -/
inductive Arity where
  /-- This many. -/
  | exactly (count : Nat)
  /-- This many or more. -/
  | atLeast (count : Nat)
  deriving DecidableEq, Repr

/-- The expectation in words. -/
def Arity.text : Arity → String
  | .exactly count => toString count
  | .atLeast count => "at least " ++ toString count

/-- What is wrong with the sizes of a new array. -/
inductive BoundsFault where
  /-- The type of the given name is not an array. -/
  | notArray (typeName : String)
  /-- There are not as many sizes as dimensions. -/
  | wrongCount (given rank : Nat)
  deriving DecidableEq, Repr

/-- What is wrong, in words. -/
def BoundsFault.text : BoundsFault → String
  | .notArray typeName => "'" ++ typeName ++ "' is not an array type"
  | .wrongCount given rank =>
    toString given ++ " bound(s) given for an array of rank " ++ toString rank

/-- Why an expression cannot be written. -/
inductive Error where
  /-- There is no AQL for it. -/
  | notSupported (thing : String)
  /-- An operation has the wrong number of arguments. -/
  | argumentCount (operation : String) (expected : Arity) (actual : Nat)
  /-- An operator that needs an operand has none. -/
  | missingOperand (operator : UnaryOperator)
  /-- An item of a collection has no arguments. -/
  | emptyElementInit
  /-- The sizes of a new array do not fit its type. -/
  | invalidArrayBounds (fault : BoundsFault)
  /-- A number of rows is not known before the query runs. -/
  | notStaticInteger (method : String)
  /-- A format string refers to an argument that is not there. -/
  | missingFormatArgument (index available : Nat)
  /-- A format string does not read as one. -/
  | invalidFormatString (format : String) (fault : FormatString.Fault)
  /-- The value of a name is not known. -/
  | unresolvedReference (name : String)
  /-- A position of the tree is left that is not the current one. -/
  | invalidPath (expected actual : String)
  deriving DecidableEq, Repr

namespace Error

/-- Whether the writing can go on. -/
def isRecoverable : Error → Bool
  | .notSupported _ => true
  | _ => false

/-- The error in words. -/
def message : Error → String
  | .notSupported thing => thing ++ " is not supported"
  | .argumentCount operation expected actual =>
    "'" ++ operation ++ "' expects " ++ expected.text ++ " argument(s), but got " ++ toString actual
  | .missingOperand operator => "the '" ++ operator.title ++ "' operator requires an operand"
  | .emptyElementInit => "an element initializer needs at least one argument"
  | .invalidArrayBounds fault => "invalid array bounds: " ++ fault.text
  | .notStaticInteger method => "the argument of '" ++ method ++ "' must be a constant integer"
  | .missingFormatArgument index available =>
    "the format string refers to argument " ++ toString index ++ ", but only " ++
      toString available ++ " argument(s) were supplied"
  | .invalidFormatString format fault => "invalid format string: " ++ fault.message format
  | .unresolvedReference name => "cannot resolve the value of '" ++ name ++ "'"
  | .invalidPath expected actual =>
    "path segment mismatch: expected to leave '" ++ expected ++
      "' but the current segment is '" ++ actual ++ "'"

end Error

end AqlPipeline
