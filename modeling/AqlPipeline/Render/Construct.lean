import AqlPipeline.Dialect
import AqlPipeline.Render.Part

/-!
# Members, objects and collections
-/

namespace AqlPipeline.Render

open Script

/-! ## Members -/

/-- A value from outside of the query is bound under its name. -/
def reference (dialect : Dialect) (owner : Option Expr) (member : Member) (type : TypeRef) :
    Script :=
  match dialect.resolve owner member type with
  | .ok reference => bindNamed reference.name reference.value
  | .error error => .fail error

/-- Whether an expression holds closed-over variables. -/
def holdsCaptures : Expr → Bool
  | .constant _ type => type.isClosure
  | .memberAccess _ _ type => type.isClosure
  | _ => false

/-- The name of an attribute: members called key are the key of the document. -/
def attributeName (name : String) : String :=
  if name == "Key" || name == "key" then "_key" else name

/-- A member of an object, or a static member if there is no owner. -/
def memberAccess (dialect : Dialect) (owner : Option Part) (member : Member) (type : TypeRef) :
    Script :=
  match owner with
  | none => reference dialect none member type
  | some owner =>
    if holdsCaptures owner.expr then reference dialect (some owner.expr) member type
    else owner.visit "Expression" ++ write ("." ++ attributeName member.name)

/-! ## Objects -/

/-- The arguments of a constructor. -/
def constructed (arguments : List Part) : Script :=
  write "\x7b" ++ Part.inLine "Arguments" arguments ++ write "\x7d"

/-- The arguments of an object without a declared type, each behind its name, unless it is a
member of that name. -/
def namedArguments : (index : Nat) → (members : List String) → (arguments : List Part) →
    List Script
  | index, member :: members, argument :: arguments =>
    let visited := argument.visit (numbered "Arguments" index)
    (if argument.expr.memberName? == some member then visited
      else write (member ++ " = ") ++ visited) :: namedArguments (index + 1) members arguments
  | _, _, _ => []

/-- A new object. -/
def newObject (arguments : List Part) (members : List String) (type : TypeRef) : Script :=
  .step (.project type.name) <|
    if !type.isAnonymous then constructed arguments
    else if members.length ≠ arguments.length then
      .fail (.argumentCount type.name (.exactly members.length) arguments.length)
    else
      write "\x7b" ++ openLines ++ join (delimit ", ") (namedArguments 0 members arguments) ++
        closeLines ++ write "\x7d"

/-- Items in braces, on lines of their own. -/
def braced (base : String) (items : List Script) : Script :=
  write "\x7b" ++
    (if items.isEmpty then .done else openLines ++ onLines base ", " items ++ closeLines) ++
    write "\x7d"

/-- A new object with values for its members. Without arguments, the constructor is not written. -/
def memberInit (new : NewObject) (constructor : Script) (bindings : List Script) : Script :=
  .step (.project new.type.name) <|
    match new.arguments.isEmpty, bindings.isEmpty with
    | true, _ => braced "Bindings" bindings
    | false, true => .enter "NewExpression" constructor
    | false, false => .enter "NewExpression" constructor ++ write " " ++ braced "Bindings" bindings

/-- A member of a new object and what it is set to. -/
def assigned (member : String) (value : Script) : Script :=
  write (member ++ " = ") ++ value

/-- The arguments that add one item to a collection. -/
def elementInit : List Part → Script
  | [] => .fail .emptyElementInit
  | [argument] => argument.visit (numbered "Arguments" 0)
  | arguments => braced "Arguments" (arguments.map Part.script)

/-- A new collection with its items. -/
def listInit (initializers : List Script) : Script :=
  write "[" ++ inLine "Initializers" ", " initializers ++ write "]"

/-! ## Arrays -/

/-- A new array, from its items or from its sizes. There has to be a size for each dimension. -/
def newArray (dialect : Dialect) (kind : ArrayKind) (items : List Part) (type : TypeRef) :
    Script :=
  match kind with
  | .init => write "[" ++ Part.inLine "Expressions" items ++ write "]"
  | .bounds =>
    match type.ranks with
    | [] => .fail (.invalidArrayBounds (.notArray type.name))
    | rank :: inner =>
      if items.length ≠ rank.toNat then
        .fail (.invalidArrayBounds (.wrongCount items.length rank.toNat))
      else
        write ("new " ++ dialect.typeName type.root ++ "[") ++ Part.inLine "Expressions" items ++
          write ("]" ++ String.join (inner.map TypeRef.brackets))

/-- An element at some keys. -/
def element (segment : String) (object : Part) (keys : List Script) : Script :=
  object.visit segment ++ write "[" ++ join (write ", ") keys ++ write "]"

/-- The elements that are the arguments, numbered from `index` on. -/
def keys (index : Nat) (arguments : List Part) : List Script :=
  visits "Arguments" index (arguments.map Part.script)

/-! ## Tests and calls of function values -/

/-- A test of a value's type. -/
def typeTest (dialect : Dialect) (kind : TypeTestKind) (subject : Part) (operand : TypeRef) :
    Script :=
  subject.visit "Expression" ++
    match kind with
    | .isA => write (" is " ++ dialect.typeName operand)
    | .equal => write (".GetType() == typeof(" ++ dialect.typeName operand ++ ")")

/-- The call of a function value; a function that is written out stands in parentheses. -/
def invocation (function : Part) (arguments : List Part) : Script :=
  let visited := function.visit "Expression"
  (match function.expr with
    | .lambda .. => write "(" ++ visited ++ write ")"
    | _ => visited) ++
    write "(" ++ Part.inLine "Arguments" arguments ++ write ")"

end AqlPipeline.Render
