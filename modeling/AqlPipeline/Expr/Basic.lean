import AqlPipeline.Json.Basic
import AqlPipeline.Operator
import AqlPipeline.TypeRef.Basic

/-!
# Pipeline expressions

The expression tree of a query pipeline: a chain of method calls over a query source, with lambdas
as arguments, and everything that can stand inside those lambdas.
-/

namespace AqlPipeline

/-- A parameter of a lambda or a variable of a block. -/
structure Parameter where
  /-- Its name. -/
  name : String
  /-- Its type. -/
  type : TypeRef
  deriving DecidableEq, Repr

/-- A field or property. -/
structure Member where
  /-- Its name. -/
  name : String
  /-- The name of the type that declares it. -/
  declaringType : Option String
  /-- The current value of a static member. -/
  value : Option Json

/-- How a method is called. -/
inductive MethodKind where
  /-- On an object. -/
  | ofInstance
  /-- On its type. -/
  | static
  /-- On its first argument. -/
  | extension
  deriving DecidableEq, Repr

/-- A method. -/
structure Method where
  /-- Its name. -/
  name : String
  /-- The type that declares it. -/
  declaringType : TypeRef
  /-- How it is called. -/
  kind : MethodKind
  /-- Whether it reads an indexed property. -/
  isIndexer : Bool

namespace Method

/-- Whether the method joins strings. -/
def isStringConcat (method : Method) : Bool :=
  method.declaringType.name == "String" && method.name == "Concat"

/-- Whether the method fills in a format string. -/
def isStringFormat (method : Method) : Bool :=
  method.declaringType.name == "String" && method.name == "Format"

end Method

/-- How an array is made. -/
inductive ArrayKind where
  /-- From its items. -/
  | init
  /-- From its sizes. -/
  | bounds
  deriving DecidableEq, Repr

/-- How a type is tested. -/
inductive TypeTestKind where
  /-- The value is of the type or of one below it. -/
  | isA
  /-- The value is of the type itself. -/
  | equal
  deriving DecidableEq, Repr

/-- How a jump is written. -/
inductive GotoKind where
  | breakTo
  | continueTo
  | gotoTo
  | returnTo
  deriving DecidableEq, Repr

/-- The place a jump leads to. -/
structure LabelTarget where
  /-- Its name, if it has one. -/
  name : Option String
  deriving DecidableEq, Repr

/-- A place in a document. -/
structure DebugMarker where
  /-- The document. -/
  document : String
  /-- The line it starts in. -/
  startLine : UInt32
  /-- The column it starts in. -/
  startColumn : UInt32
  /-- The line it ends in. -/
  endLine : UInt32
  /-- The column it ends in. -/
  endColumn : UInt32
  /-- Whether the place is left instead of entered. -/
  isClear : Bool
  deriving DecidableEq, Repr

/-- An operation that is bound when the query runs. Its first argument is the receiver. -/
inductive LateOperation where
  | binaryOp (operator : BinaryOperator)
  | convert (type : TypeRef)
  | createInstance
  | deleteIndex
  | deleteMember (name : String)
  | getIndex
  | getMember (name : String)
  | invoke
  | invokeMember (name : String)
  | setIndex
  | setMember (name : String)
  | unaryOp (operator : UnaryOperator)
  deriving DecidableEq, Repr

mutual

/-- An expression. -/
inductive Expr where
  /-- An operator between two operands. -/
  | binary (operator : BinaryOperator) (left right : Expr) (type : TypeRef)
  /-- An operator at one operand; only rethrowing goes without. -/
  | unary (operator : UnaryOperator) (operand : Option Expr) (type : TypeRef)
  /-- A function. -/
  | lambda (parameters : List Parameter) (body : Expr) (type : TypeRef)
  /-- A reference to a parameter or variable. -/
  | parameter (reference : Parameter)
  /-- A value. For a closure type it holds the captured fields by name. -/
  | constant (value : Json) (type : TypeRef)
  /-- A closed-over variable with its value. -/
  | captured (name : String) (value : Json) (type : TypeRef)
  /-- A member of an object, or a static member if there is no owner. -/
  | memberAccess (owner : Option Expr) (member : Member) (type : TypeRef)
  /-- A new object. -/
  | newObject (new : NewObject)
  /-- A method call. -/
  | call (target : Option Expr) (method : Method) (arguments : List Expr) (type : TypeRef)
  /-- A new object with values for its members. -/
  | memberInit (new : NewObject) (bindings : List Binding)
  /-- A new collection with its items. -/
  | listInit (new : NewObject) (initializers : List ElementInit)
  /-- A new array, from its items or from its sizes. -/
  | newArray (kind : ArrayKind) (items : List Expr) (type : TypeRef)
  /-- One of two expressions. -/
  | conditional (test ifTrue ifFalse : Expr) (type : TypeRef)
  /-- The default value of a type. -/
  | defaultValue (type : TypeRef)
  /-- A test of a value's type. -/
  | typeTest (kind : TypeTestKind) (subject : Expr) (operand : TypeRef) (type : TypeRef)
  /-- The call of a function value. -/
  | invocation (function : Expr) (arguments : List Expr) (type : TypeRef)
  /-- An indexed property. -/
  | index (object : Expr) (arguments : List Expr) (type : TypeRef)
  /-- A sequence of expressions with variables of its own. -/
  | block (locals : List Parameter) (expressions : List Expr) (type : TypeRef)
  /-- A choice among cases. -/
  | switch (subject : Expr) (cases : List SwitchCase) (defaultBody : Option Expr) (type : TypeRef)
  /-- A body with handlers for its exceptions. -/
  | tryCatch (body : Expr) (handlers : List CatchBlock) (fault finalizer : Option Expr)
      (type : TypeRef)
  /-- A place that can be jumped to. -/
  | label (target : LabelTarget) (type : TypeRef)
  /-- A jump. -/
  | goto (kind : GotoKind) (target : Option LabelTarget) (value : Option Expr) (type : TypeRef)
  /-- An endless loop. -/
  | loop (body : Expr) (type : TypeRef)
  /-- A group of variables that can be inspected while the query runs. -/
  | variablesGroup (locals : List Parameter) (type : TypeRef)
  /-- A place in the source. -/
  | debugMarker (marker : DebugMarker) (type : TypeRef)
  /-- An operation that is bound when the query runs. -/
  | late (operation : LateOperation) (arguments : List Expr) (type : TypeRef)

/-- A constructor call. For an anonymous type the members name the arguments, in order. -/
inductive NewObject where
  | mk (arguments : List Expr) (members : List String) (type : TypeRef)

/-- What a member of a new object is set to. -/
inductive Binding where
  /-- A value. -/
  | assignment (member : String) (value : Expr)
  /-- Members of the member. -/
  | nested (member : String) (bindings : List Binding)
  /-- Items added to the member. -/
  | list (member : String) (initializers : List ElementInit)

/-- The arguments that add one item to a collection. -/
inductive ElementInit where
  | mk (arguments : List Expr)

/-- A case of a switch. -/
inductive SwitchCase where
  | mk (testValues : List Expr) (body : Expr)

/-- A handler of exceptions. -/
inductive CatchBlock where
  | mk (test : TypeRef) (exception : Option Parameter) (filter : Option Expr) (body : Expr)

end

namespace NewObject

/-- The arguments of the constructor. -/
def arguments : NewObject → List Expr
  | .mk arguments _ _ => arguments

/-- The names of the arguments. -/
def members : NewObject → List String
  | .mk _ members _ => members

/-- The type of the object. -/
def type : NewObject → TypeRef
  | .mk _ _ type => type

end NewObject

namespace Expr

instance : Inhabited Expr := ⟨.defaultValue .void⟩

/-- The static type of an expression. -/
def type : Expr → TypeRef
  | .binary _ _ _ type => type
  | .unary _ _ type => type
  | .lambda _ _ type => type
  | .parameter reference => reference.type
  | .constant _ type => type
  | .captured _ _ type => type
  | .memberAccess _ _ type => type
  | .newObject new => new.type
  | .call _ _ _ type => type
  | .memberInit new _ => new.type
  | .listInit new _ => new.type
  | .newArray _ _ type => type
  | .conditional _ _ _ type => type
  | .defaultValue type => type
  | .typeTest _ _ _ type => type
  | .invocation _ _ type => type
  | .index _ _ type => type
  | .block _ _ type => type
  | .switch _ _ _ type => type
  | .tryCatch _ _ _ _ type => type
  | .label _ type => type
  | .goto _ _ _ type => type
  | .loop _ type => type
  | .variablesGroup _ type => type
  | .debugMarker _ type => type
  | .late _ _ type => type

/-- The name of the member or captured variable that an expression refers to. -/
def memberName? : Expr → Option String
  | .memberAccess _ member _ => some member.name
  | .captured name _ _ => some name
  | _ => none

/-- Whether an expression is a lambda passed on as data. -/
def isQuote : Expr → Bool
  | .unary .quote _ _ => true
  | _ => false

/-- Whether an expression is an empty statement: the default value of the type without values. -/
def isEmpty : Expr → Bool
  | .defaultValue type => type.isVoid
  | _ => false

/-- Whether a block takes more than one line: it has several expressions, or variables. -/
def hasMultipleLines (locals : List Parameter) (expressions : List Expr) : Bool :=
  1 < expressions.length || !locals.isEmpty

/-! ## Parameters below an expression -/

mutual

/-- Whether an expression refers to a parameter or variable anywhere below it, so that its value
can only be known while the query runs. -/
def mentionsParameter : Expr → Bool
  | .binary _ left right _ => left.mentionsParameter || right.mentionsParameter
  | .unary _ operand _ => optionMentions operand
  | .lambda _ body _ => body.mentionsParameter
  | .parameter _ => true
  | .constant .. => false
  | .captured .. => false
  | .memberAccess owner _ _ => optionMentions owner
  | .newObject new => newMentions new
  | .call target _ arguments _ => optionMentions target || listMentions arguments
  | .memberInit new bindings => newMentions new || bindingsMention bindings
  | .listInit new initializers => newMentions new || initializersMention initializers
  | .newArray _ items _ => listMentions items
  | .conditional test ifTrue ifFalse _ =>
    test.mentionsParameter || ifTrue.mentionsParameter || ifFalse.mentionsParameter
  | .defaultValue _ => false
  | .typeTest _ subject _ _ => subject.mentionsParameter
  | .invocation function arguments _ => function.mentionsParameter || listMentions arguments
  | .index object arguments _ => object.mentionsParameter || listMentions arguments
  | .block locals expressions _ => !locals.isEmpty || listMentions expressions
  | .switch subject cases defaultBody _ =>
    subject.mentionsParameter || casesMention cases || optionMentions defaultBody
  | .tryCatch body handlers fault finalizer _ =>
    body.mentionsParameter || handlersMention handlers || optionMentions fault ||
      optionMentions finalizer
  | .label .. => false
  | .goto _ _ value _ => optionMentions value
  | .loop body _ => body.mentionsParameter
  | .variablesGroup locals _ => !locals.isEmpty
  | .debugMarker .. => false
  | .late _ arguments _ => listMentions arguments

/-- Whether an expression that may be missing refers to a parameter. -/
def optionMentions : Option Expr → Bool
  | none => false
  | some expr => expr.mentionsParameter

/-- Whether one of some expressions refers to a parameter. -/
def listMentions : List Expr → Bool
  | [] => false
  | expr :: exprs => expr.mentionsParameter || listMentions exprs

/-- Whether a constructor call refers to a parameter. -/
def newMentions : NewObject → Bool
  | .mk arguments _ _ => listMentions arguments

/-- Whether a binding refers to a parameter. -/
def bindingMentions : Binding → Bool
  | .assignment _ value => value.mentionsParameter
  | .nested _ bindings => bindingsMention bindings
  | .list _ initializers => initializersMention initializers

/-- Whether one of some bindings refers to a parameter. -/
def bindingsMention : List Binding → Bool
  | [] => false
  | binding :: bindings => bindingMentions binding || bindingsMention bindings

/-- Whether the arguments for one item refer to a parameter. -/
def initializerMentions : ElementInit → Bool
  | .mk arguments => listMentions arguments

/-- Whether the arguments for one of some items refer to a parameter. -/
def initializersMention : List ElementInit → Bool
  | [] => false
  | init :: inits => initializerMentions init || initializersMention inits

/-- Whether a case refers to a parameter. -/
def caseMentions : SwitchCase → Bool
  | .mk testValues body => listMentions testValues || body.mentionsParameter

/-- Whether one of some cases refers to a parameter. -/
def casesMention : List SwitchCase → Bool
  | [] => false
  | first :: cases => caseMentions first || casesMention cases

/-- Whether a handler has a variable or refers to a parameter. -/
def handlerMentions : CatchBlock → Bool
  | .mk _ exception filter body =>
    exception.isSome || optionMentions filter || body.mentionsParameter

/-- Whether one of some handlers has a variable or refers to a parameter. -/
def handlersMention : List CatchBlock → Bool
  | [] => false
  | handler :: handlers => handlerMentions handler || handlersMention handlers

end

end Expr

end AqlPipeline
