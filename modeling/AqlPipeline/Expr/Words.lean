import AqlPipeline.Expr.Basic
import AqlPipeline.Json.Record

/-!
# The words of expressions in JSON

Kinds of expressions, bindings and late-bound operations, and the small enumerations inside them.
-/

namespace AqlPipeline

instance : Json.Words MethodKind where
  all := [.ofInstance, .static, .extension]
  word
    | .ofInstance => "instance"
    | .static => "static"
    | .extension => "extension"

instance : Json.Words ArrayKind where
  all := [.init, .bounds]
  word
    | .init => "init"
    | .bounds => "bounds"

instance : Json.Words TypeTestKind where
  all := [.isA, .equal]
  word
    | .isA => "is"
    | .equal => "equal"

instance : Json.Words GotoKind where
  all := [.breakTo, .continueTo, .gotoTo, .returnTo]
  word
    | .breakTo => "break"
    | .continueTo => "continue"
    | .gotoTo => "goto"
    | .returnTo => "return"

/-- The form of an expression. -/
inductive ExprKind where
  | binary
  | unary
  | lambda
  | parameter
  | constant
  | captured
  | memberAccess
  | newObject
  | call
  | memberInit
  | listInit
  | newArray
  | conditional
  | defaultValue
  | typeTest
  | invocation
  | index
  | block
  | switch
  | tryCatch
  | label
  | goto
  | loop
  | variablesGroup
  | debugMarker
  | late
  deriving DecidableEq, Repr

instance : Json.Words ExprKind where
  all := [.binary, .unary, .lambda, .parameter, .constant, .captured, .memberAccess, .newObject,
    .call, .memberInit, .listInit, .newArray, .conditional, .defaultValue, .typeTest, .invocation,
    .index, .block, .switch, .tryCatch, .label, .goto, .loop, .variablesGroup, .debugMarker, .late]
  word
    | .binary => "binary"
    | .unary => "unary"
    | .lambda => "lambda"
    | .parameter => "parameter"
    | .constant => "constant"
    | .captured => "captured"
    | .memberAccess => "memberAccess"
    | .newObject => "newObject"
    | .call => "call"
    | .memberInit => "memberInit"
    | .listInit => "listInit"
    | .newArray => "newArray"
    | .conditional => "conditional"
    | .defaultValue => "default"
    | .typeTest => "typeTest"
    | .invocation => "invocation"
    | .index => "index"
    | .block => "block"
    | .switch => "switch"
    | .tryCatch => "try"
    | .label => "label"
    | .goto => "goto"
    | .loop => "loop"
    | .variablesGroup => "capturedVariablesGroup"
    | .debugMarker => "debugMarker"
    | .late => "dynamic"

/-- The form of a binding. -/
inductive BindingKind where
  | assignment
  | nested
  | list
  deriving DecidableEq, Repr

instance : Json.Words BindingKind where
  all := [.assignment, .nested, .list]
  word
    | .assignment => "assignment"
    | .nested => "memberBindings"
    | .list => "list"

/-- The form of a late-bound operation. -/
inductive LateKind where
  | binaryOp
  | convert
  | createInstance
  | deleteIndex
  | deleteMember
  | getIndex
  | getMember
  | invoke
  | invokeMember
  | setIndex
  | setMember
  | unaryOp
  deriving DecidableEq, Repr

instance : Json.Words LateKind where
  all := [.binaryOp, .convert, .createInstance, .deleteIndex, .deleteMember, .getIndex, .getMember,
    .invoke, .invokeMember, .setIndex, .setMember, .unaryOp]
  word
    | .binaryOp => "binaryOp"
    | .convert => "convert"
    | .createInstance => "createInstance"
    | .deleteIndex => "deleteIndex"
    | .deleteMember => "deleteMember"
    | .getIndex => "getIndex"
    | .getMember => "getMember"
    | .invoke => "invoke"
    | .invokeMember => "invokeMember"
    | .setIndex => "setIndex"
    | .setMember => "setMember"
    | .unaryOp => "unaryOp"

namespace LateOperation

/-- The form of an operation. -/
def kind : LateOperation → LateKind
  | .binaryOp _ => .binaryOp
  | .convert _ => .convert
  | .createInstance => .createInstance
  | .deleteIndex => .deleteIndex
  | .deleteMember _ => .deleteMember
  | .getIndex => .getIndex
  | .getMember _ => .getMember
  | .invoke => .invoke
  | .invokeMember _ => .invokeMember
  | .setIndex => .setIndex
  | .setMember _ => .setMember
  | .unaryOp _ => .unaryOp

/-- The name of an operation in messages. -/
def title (operation : LateOperation) : String :=
  capitalized (Json.Words.word operation.kind)

end LateOperation

end AqlPipeline
