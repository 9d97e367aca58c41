import AqlPipeline.Expr.Basic

/-!
# Building expressions

Common shapes of expressions, and the stages of a pipeline.
-/

namespace AqlPipeline.Expr

/-! ## Values -/

/-- A text. -/
def stringConstant (text : String) : Expr :=
  .constant (.string text) .string

/-- A 32 bit number. -/
def intConstant (value : Int) : Expr :=
  .constant (.integer value) (.number "Int32")

/-- The start of a pipeline: a source of documents of a type. -/
def source (element : TypeRef) : Expr :=
  .constant .null (.queryable element)

/-- A holder of closed-over variables with their values. -/
def closure (typeName : String) (fields : List (String × Json)) : Expr :=
  .constant (.object fields) (.closure typeName)

/-! ## Members -/

/-- A member of an object. -/
def memberOf (owner : Expr) (name : String) (type : TypeRef) : Expr :=
  .memberAccess (some owner) ⟨name, none, none⟩ type

/-- A static member with its current value. -/
def staticMember (declaringType name : String) (value : Json) (type : TypeRef) : Expr :=
  .memberAccess none ⟨name, some declaringType, some value⟩ type

/-! ## Operators -/

/-- A test of equality. -/
def equals (left right : Expr) : Expr :=
  .binary .equal left right .boolean

/-- An operator at its operand. -/
def applied (operator : UnaryOperator) (operand : Expr) (type : TypeRef) : Expr :=
  .unary operator (some operand) type

/-- A lambda that is passed on as data. -/
def quoted (lambda : Expr) : Expr :=
  applied .quote lambda lambda.type

/-- A function. -/
def function (parameters : List Parameter) (body : Expr) : Expr :=
  .lambda parameters body (.named "Func")

/-- A test whether a value is of a type. -/
def isOfType (subject : Expr) (operand : TypeRef) : Expr :=
  .typeTest .isA subject operand .boolean

/-! ## Calls -/

/-- A call of a method on its first argument. -/
def extensionCall (declaringType : TypeRef) (name : String) (arguments : List Expr)
    (type : TypeRef) : Expr :=
  .call none ⟨name, declaringType, .extension, false⟩ arguments type

/-- A call of a method on an object. -/
def instanceCall (target : Expr) (name : String) (arguments : List Expr) (type : TypeRef) : Expr :=
  .call (some target) ⟨name, target.type, .ofInstance, false⟩ arguments type

/-- A call of a method on its type. -/
def staticCall (declaringType : TypeRef) (name : String) (arguments : List Expr) (type : TypeRef) :
    Expr :=
  .call none ⟨name, declaringType, .static, false⟩ arguments type

/-- A stage of a pipeline with a lambda. -/
def stage (name : String) (source lambda : Expr) : Expr :=
  extensionCall (.named "Queryable") name [source, quoted lambda] source.type

/-- A stage of a pipeline with a number of rows. -/
def countStage (name : String) (source : Expr) (count : Int) : Expr :=
  extensionCall (.named "Queryable") name [source, intConstant count] source.type

/-! ## Objects and arrays -/

/-- A new object without a declared type, from its named values. -/
def anonymousObject (fields : List (String × Expr)) : Expr :=
  .newObject (.mk (fields.map (·.2)) (fields.map (·.1)) (.anonymous "<>f__AnonymousType0"))

/-- A new array from its items. -/
def arrayOfItems (element : TypeRef) (items : List Expr) : Expr :=
  .newArray .init items (.arrayOf element 1)

end AqlPipeline.Expr
