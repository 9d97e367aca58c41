import AqlPipeline.Expr.Words
import AqlPipeline.TypeRef.Codec

/-!
# Expressions as JSON

Every expression is a choice with the tag `kind`, all of its fields in order, and null for what is
missing.
-/

namespace AqlPipeline

/-- A choice: the tag with the word of a form, and the other fields. -/
def taggedObject {α : Type} [Json.Words α] (tag : String) (form : α)
    (fields : List (String × Json)) : Json :=
  .object ((tag, Json.ofValue form) :: fields)

/-- The fields of a parameter. -/
def Parameter.fields (parameter : Parameter) : List (String × Json) :=
  [("name", .string parameter.name), ("type", parameter.type.encode)]

/-- A parameter as JSON. -/
def Parameter.encode (parameter : Parameter) : Json :=
  .object parameter.fields

/-- A member as JSON. -/
def Member.encode (member : Member) : Json :=
  .object [("name", .string member.name),
    ("declaringType", Json.ofOption .string member.declaringType),
    ("value", member.value.getD .null)]

/-- A method as JSON. -/
def Method.encode (method : Method) : Json :=
  .object [("name", .string method.name), ("declaringType", method.declaringType.encode),
    ("kind", Json.ofValue method.kind), ("isIndexer", .bool method.isIndexer)]

/-- The place a jump leads to, as JSON. -/
def LabelTarget.encode (target : LabelTarget) : Json :=
  .object [("name", Json.ofOption .string target.name)]

/-- The fields of a place in a document. -/
def DebugMarker.fields (marker : DebugMarker) : List (String × Json) :=
  [("document", .string marker.document),
    ("startLine", .integer marker.startLine.toNat),
    ("startColumn", .integer marker.startColumn.toNat),
    ("endLine", .integer marker.endLine.toNat),
    ("endColumn", .integer marker.endColumn.toNat),
    ("isClear", .bool marker.isClear)]

/-- The fields of a late-bound operation. -/
def LateOperation.fields : LateOperation → List (String × Json)
  | .binaryOp operator => [("operator", Json.ofValue operator)]
  | .convert type => [("type", type.encode)]
  | .deleteMember name => [("name", .string name)]
  | .getMember name => [("name", .string name)]
  | .invokeMember name => [("name", .string name)]
  | .setMember name => [("name", .string name)]
  | .unaryOp operator => [("operator", Json.ofValue operator)]
  | .createInstance | .deleteIndex | .getIndex | .invoke | .setIndex => []

/-- A late-bound operation as JSON, a choice with the tag `binder`. -/
def LateOperation.encode (operation : LateOperation) : Json :=
  taggedObject "binder" operation.kind operation.fields

mutual

/-- An expression as JSON. -/
def Expr.encode : Expr → Json
  | .binary operator left right type =>
    taggedObject "kind" ExprKind.binary
      [("operator", Json.ofValue operator), ("left", left.encode), ("right", right.encode),
        ("type", type.encode)]
  | .unary operator operand type =>
    taggedObject "kind" ExprKind.unary
      [("operator", Json.ofValue operator), ("operand", encodeOption operand),
        ("type", type.encode)]
  | .lambda parameters body type =>
    taggedObject "kind" ExprKind.lambda
      [("parameters", .array (parameters.map Parameter.encode)), ("body", body.encode),
        ("type", type.encode)]
  | .parameter reference => taggedObject "kind" ExprKind.parameter reference.fields
  | .constant value type =>
    taggedObject "kind" ExprKind.constant [("value", value), ("type", type.encode)]
  | .captured name value type =>
    taggedObject "kind" ExprKind.captured
      [("name", .string name), ("value", value), ("type", type.encode)]
  | .memberAccess owner member type =>
    taggedObject "kind" ExprKind.memberAccess
      [("expression", encodeOption owner), ("member", member.encode), ("type", type.encode)]
  | .newObject new => taggedObject "kind" ExprKind.newObject (newFields new)
  | .call target method arguments type =>
    taggedObject "kind" ExprKind.call
      [("target", encodeOption target), ("method", method.encode),
        ("arguments", .array (encodeList arguments)), ("type", type.encode)]
  | .memberInit new bindings =>
    taggedObject "kind" ExprKind.memberInit
      [("newExpression", .object (newFields new)), ("bindings", .array (encodeBindings bindings))]
  | .listInit new initializers =>
    taggedObject "kind" ExprKind.listInit
      [("newExpression", .object (newFields new)),
        ("initializers", .array (encodeInits initializers))]
  | .newArray kind items type =>
    taggedObject "kind" ExprKind.newArray
      [("arrayKind", Json.ofValue kind), ("expressions", .array (encodeList items)),
        ("type", type.encode)]
  | .conditional test ifTrue ifFalse type =>
    taggedObject "kind" ExprKind.conditional
      [("test", test.encode), ("ifTrue", ifTrue.encode), ("ifFalse", ifFalse.encode),
        ("type", type.encode)]
  | .defaultValue type => taggedObject "kind" ExprKind.defaultValue [("type", type.encode)]
  | .typeTest kind subject operand type =>
    taggedObject "kind" ExprKind.typeTest
      [("testKind", Json.ofValue kind), ("expression", subject.encode),
        ("typeOperand", operand.encode), ("type", type.encode)]
  | .invocation function arguments type =>
    taggedObject "kind" ExprKind.invocation
      [("expression", function.encode), ("arguments", .array (encodeList arguments)),
        ("type", type.encode)]
  | .index object arguments type =>
    taggedObject "kind" ExprKind.index
      [("object", object.encode), ("arguments", .array (encodeList arguments)),
        ("type", type.encode)]
  | .block locals expressions type =>
    taggedObject "kind" ExprKind.block
      [("variables", .array (locals.map Parameter.encode)),
        ("expressions", .array (encodeList expressions)), ("type", type.encode)]
  | .switch subject cases defaultBody type =>
    taggedObject "kind" ExprKind.switch
      [("switchValue", subject.encode), ("cases", .array (encodeCases cases)),
        ("defaultBody", encodeOption defaultBody), ("type", type.encode)]
  | .tryCatch body handlers fault finalizer type =>
    taggedObject "kind" ExprKind.tryCatch
      [("body", body.encode), ("handlers", .array (encodeHandlers handlers)),
        ("fault", encodeOption fault), ("finally", encodeOption finalizer), ("type", type.encode)]
  | .label target type =>
    taggedObject "kind" ExprKind.label [("target", target.encode), ("type", type.encode)]
  | .goto kind target value type =>
    taggedObject "kind" ExprKind.goto
      [("gotoKind", Json.ofValue kind), ("target", Json.ofOption LabelTarget.encode target),
        ("value", encodeOption value), ("type", type.encode)]
  | .loop body type =>
    taggedObject "kind" ExprKind.loop [("body", body.encode), ("type", type.encode)]
  | .variablesGroup locals type =>
    taggedObject "kind" ExprKind.variablesGroup
      [("variables", .array (locals.map Parameter.encode)), ("type", type.encode)]
  | .debugMarker marker type =>
    taggedObject "kind" ExprKind.debugMarker (marker.fields ++ [("type", type.encode)])
  | .late operation arguments type =>
    taggedObject "kind" ExprKind.late
      [("operation", operation.encode), ("arguments", .array (encodeList arguments)),
        ("type", type.encode)]

/-- An expression that may be missing, as JSON. -/
def encodeOption : Option Expr → Json
  | none => .null
  | some expr => expr.encode

/-- Some expressions as JSON. -/
def encodeList : List Expr → List Json
  | [] => []
  | expr :: exprs => expr.encode :: encodeList exprs

/-- The fields of a constructor call. -/
def newFields : NewObject → List (String × Json)
  | .mk arguments members type =>
    [("arguments", .array (encodeList arguments)), ("members", .array (members.map .string)),
      ("type", type.encode)]

/-- A binding as JSON, a choice with the tag `binding`. -/
def encodeBinding : Binding → Json
  | .assignment member value =>
    taggedObject "binding" BindingKind.assignment
      [("member", .string member), ("expression", value.encode)]
  | .nested member bindings =>
    taggedObject "binding" BindingKind.nested
      [("member", .string member), ("bindings", .array (encodeBindings bindings))]
  | .list member initializers =>
    taggedObject "binding" BindingKind.list
      [("member", .string member), ("initializers", .array (encodeInits initializers))]

/-- Some bindings as JSON. -/
def encodeBindings : List Binding → List Json
  | [] => []
  | binding :: bindings => encodeBinding binding :: encodeBindings bindings

/-- The arguments for one item as JSON. -/
def encodeInit : ElementInit → Json
  | .mk arguments => .object [("arguments", .array (encodeList arguments))]

/-- The arguments for some items as JSON. -/
def encodeInits : List ElementInit → List Json
  | [] => []
  | init :: inits => encodeInit init :: encodeInits inits

/-- A case as JSON. -/
def encodeCase : SwitchCase → Json
  | .mk testValues body =>
    .object [("testValues", .array (encodeList testValues)), ("body", body.encode)]

/-- Some cases as JSON. -/
def encodeCases : List SwitchCase → List Json
  | [] => []
  | first :: cases => encodeCase first :: encodeCases cases

/-- A handler as JSON. -/
def encodeHandler : CatchBlock → Json
  | .mk test exception filter body =>
    .object [("test", test.encode), ("variable", Json.ofOption Parameter.encode exception),
      ("filter", encodeOption filter), ("body", body.encode)]

/-- Some handlers as JSON. -/
def encodeHandlers : List CatchBlock → List Json
  | [] => []
  | handler :: handlers => encodeHandler handler :: encodeHandlers handlers

end

end AqlPipeline
