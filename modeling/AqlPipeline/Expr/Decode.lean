import AqlPipeline.Expr.Words
import AqlPipeline.Json.Parser
import AqlPipeline.TypeRef.Codec

/-!
# Reading expressions from JSON

Fields may come in any order, unknown ones do not matter, and most may be left out. Values inside
an expression pass through a function given by the caller: a value read from text has its repeated
names merged, another one is kept as it is.
-/

namespace AqlPipeline

open Json (Nesting slots? required withDefault nullable list?)

/-- Reads a type, with `Object` for one that is left out. -/
def typeSlot? (nesting : Nesting) (slot : Option Json) : Option TypeRef :=
  withDefault slot TypeRef.object (TypeRef.ofJson? nesting)

/-- Reads a parameter. -/
def Parameter.decode (nesting : Nesting) (json : Json) : Option Parameter :=
  match slots? ["name", "type"] json with
  | some [name, type] => do
    let name ← required name Json.string?
    let type ← typeSlot? nesting type
    return ⟨name, type⟩
  | _ => none

/-- Reads a member. -/
def Member.decode (keep : Json → Json) (json : Json) : Option Member :=
  match slots? ["name", "declaringType", "value"] json with
  | some [name, declaringType, value] => do
    let name ← required name Json.string?
    let declaringType ← nullable declaringType Json.string?
    let value ← nullable value fun value => some (keep value)
    return ⟨name, declaringType, value⟩
  | _ => none

/-- Reads a method. -/
def Method.decode (json : Json) : Option Method :=
  match slots? ["name", "declaringType", "kind", "isIndexer"] json with
  | some [name, declaringType, kind, isIndexer] => do
    let name ← required name Json.string?
    let declaringType ← typeSlot? .inner declaringType
    let kind ← withDefault kind MethodKind.ofInstance (Json.word? .inner)
    let isIndexer ← withDefault isIndexer false Json.bool?
    return ⟨name, declaringType, kind, isIndexer⟩
  | _ => none

/-- Reads the place a jump leads to. -/
def LabelTarget.decode (json : Json) : Option LabelTarget :=
  match slots? ["name"] json with
  | some [name] => return ⟨← nullable name Json.string?⟩
  | _ => none

/-- Reads a late-bound operation. -/
def LateOperation.decode (json : Json) : Option LateOperation := do
  let (form, content) ← json.choice? "binder"
  let kind ← Json.form? (α := LateKind) .inner form
  let named (build : String → LateOperation) : Option LateOperation :=
    match slots? ["name"] content with
    | some [name] => (required name Json.string?).map build
    | _ => none
  let plain (operation : LateOperation) : Option LateOperation :=
    (slots? [] content).map fun _ => operation
  match kind with
  | .binaryOp =>
    match slots? ["operator"] content with
    | some [operator] => (required operator (Json.word? .inner)).map .binaryOp
    | _ => none
  | .convert =>
    match slots? ["type"] content with
    | some [type] => (required type (TypeRef.ofJson? .inner)).map .convert
    | _ => none
  | .createInstance => plain .createInstance
  | .deleteIndex => plain .deleteIndex
  | .deleteMember => named .deleteMember
  | .getIndex => plain .getIndex
  | .getMember => named .getMember
  | .invoke => plain .invoke
  | .invokeMember => named .invokeMember
  | .setIndex => plain .setIndex
  | .setMember => named .setMember
  | .unaryOp =>
    match slots? ["operator"] content with
    | some [operator] => (required operator (Json.word? .inner)).map .unaryOp
    | _ => none

/-! ## Items that hold expressions -/

section

variable (expr : Json → Option Expr)

/-- Reads a constructor call. -/
def NewObject.decode (nesting : Nesting) (json : Json) : Option NewObject :=
  match slots? ["arguments", "members", "type"] json with
  | some [arguments, members, type] => do
    let arguments ← withDefault arguments [] (list? expr)
    let members ← withDefault members [] (list? Json.string?)
    let type ← typeSlot? nesting type
    return .mk arguments members type
  | _ => none

/-- Reads the arguments for one item. -/
def ElementInit.decode (json : Json) : Option ElementInit :=
  match slots? ["arguments"] json with
  | some [arguments] => return .mk (← required arguments (list? expr))
  | _ => none

/-- Reads a binding that is at most `levels` bindings deep. -/
def Binding.decode : (levels : Nat) → (nesting : Nesting) → (json : Json) → Option Binding
  | 0, _, _ => none
  | levels + 1, nesting, json => do
    let (form, content) ← json.choice? "binding"
    let kind ← Json.form? (α := BindingKind) nesting form
    match kind with
    | .assignment =>
      match slots? ["member", "expression"] content with
      | some [member, value] => do
        let member ← required member Json.string?
        let value ← required value expr
        return .assignment member value
      | _ => none
    | .nested =>
      match slots? ["member", "bindings"] content with
      | some [member, bindings] => do
        let member ← required member Json.string?
        let bindings ← required bindings (list? (Binding.decode levels .inner))
        return .nested member bindings
      | _ => none
    | .list =>
      match slots? ["member", "initializers"] content with
      | some [member, initializers] => do
        let member ← required member Json.string?
        let initializers ← required initializers (list? (ElementInit.decode expr))
        return .list member initializers
      | _ => none

/-- Reads a case. -/
def SwitchCase.decode (json : Json) : Option SwitchCase :=
  match slots? ["testValues", "body"] json with
  | some [testValues, body] => do
    let testValues ← required testValues (list? expr)
    let body ← required body expr
    return .mk testValues body
  | _ => none

/-- Reads a handler. -/
def CatchBlock.decode (nesting : Nesting) (json : Json) : Option CatchBlock :=
  match slots? ["test", "variable", "filter", "body"] json with
  | some [test, exception, filter, body] => do
    let test ← required test (TypeRef.ofJson? nesting)
    let exception ← nullable exception (Parameter.decode nesting)
    let filter ← nullable filter expr
    let body ← required body expr
    return .mk test exception filter body
  | _ => none

end

/-! ## Expressions -/

/-- Reads an expression of the given form, with a reader for the expressions inside it. -/
def Expr.decodeForm (keep : Json → Json) (expr : Json → Option Expr) (levels : Nat)
    (content : Json) : ExprKind → Option Expr
  | .binary =>
    match slots? ["operator", "left", "right", "type"] content with
    | some [operator, left, right, type] => do
      let operator ← required operator (Json.word? .inner)
      let left ← required left expr
      let right ← required right expr
      let type ← typeSlot? .inner type
      return .binary operator left right type
    | _ => none
  | .unary =>
    match slots? ["operator", "operand", "type"] content with
    | some [operator, operand, type] => do
      let operator ← required operator (Json.word? .inner)
      let operand ← nullable operand expr
      let type ← typeSlot? .inner type
      return .unary operator operand type
    | _ => none
  | .lambda =>
    match slots? ["parameters", "body", "type"] content with
    | some [parameters, body, type] => do
      let parameters ← required parameters (list? (Parameter.decode .inner))
      let body ← required body expr
      let type ← typeSlot? .inner type
      return .lambda parameters body type
    | _ => none
  | .parameter => (Parameter.decode .inner content).map .parameter
  | .constant =>
    match slots? ["value", "type"] content with
    | some [value, type] => do
      let value ← withDefault value .null fun value => some (keep value)
      let type ← typeSlot? .inner type
      return .constant value type
    | _ => none
  | .captured =>
    match slots? ["name", "value", "type"] content with
    | some [name, value, type] => do
      let name ← required name Json.string?
      let value ← required value fun value => some (keep value)
      let type ← typeSlot? .inner type
      return .captured name value type
    | _ => none
  | .memberAccess =>
    match slots? ["expression", "member", "type"] content with
    | some [owner, member, type] => do
      let owner ← nullable owner expr
      let member ← required member (Member.decode keep)
      let type ← typeSlot? .inner type
      return .memberAccess owner member type
    | _ => none
  | .newObject => (NewObject.decode expr .inner content).map .newObject
  | .call =>
    match slots? ["target", "method", "arguments", "type"] content with
    | some [target, method, arguments, type] => do
      let target ← nullable target expr
      let method ← required method Method.decode
      let arguments ← withDefault arguments [] (list? expr)
      let type ← typeSlot? .inner type
      return .call target method arguments type
    | _ => none
  | .memberInit =>
    match slots? ["newExpression", "bindings"] content with
    | some [new, bindings] => do
      let new ← required new (NewObject.decode expr .inner)
      let bindings ← required bindings (list? (Binding.decode expr levels .inner))
      return .memberInit new bindings
    | _ => none
  | .listInit =>
    match slots? ["newExpression", "initializers"] content with
    | some [new, initializers] => do
      let new ← required new (NewObject.decode expr .inner)
      let initializers ← required initializers (list? (ElementInit.decode expr))
      return .listInit new initializers
    | _ => none
  | .newArray =>
    match slots? ["arrayKind", "expressions", "type"] content with
    | some [kind, items, type] => do
      let kind ← required kind (Json.word? .inner)
      let items ← required items (list? expr)
      let type ← required type (TypeRef.ofJson? .inner)
      return .newArray kind items type
    | _ => none
  | .conditional =>
    match slots? ["test", "ifTrue", "ifFalse", "type"] content with
    | some [test, ifTrue, ifFalse, type] => do
      let test ← required test expr
      let ifTrue ← required ifTrue expr
      let ifFalse ← required ifFalse expr
      let type ← typeSlot? .inner type
      return .conditional test ifTrue ifFalse type
    | _ => none
  | .defaultValue =>
    match slots? ["type"] content with
    | some [type] => return .defaultValue (← typeSlot? .inner type)
    | _ => none
  | .typeTest =>
    match slots? ["testKind", "expression", "typeOperand", "type"] content with
    | some [kind, subject, operand, type] => do
      let kind ← required kind (Json.word? .inner)
      let subject ← required subject expr
      let operand ← required operand (TypeRef.ofJson? .inner)
      let type ← withDefault type TypeRef.boolean (TypeRef.ofJson? .inner)
      return .typeTest kind subject operand type
    | _ => none
  | .invocation =>
    match slots? ["expression", "arguments", "type"] content with
    | some [function, arguments, type] => do
      let function ← required function expr
      let arguments ← withDefault arguments [] (list? expr)
      let type ← typeSlot? .inner type
      return .invocation function arguments type
    | _ => none
  | .index =>
    match slots? ["object", "arguments", "type"] content with
    | some [object, arguments, type] => do
      let object ← required object expr
      let arguments ← required arguments (list? expr)
      let type ← typeSlot? .inner type
      return .index object arguments type
    | _ => none
  | .block =>
    match slots? ["variables", "expressions", "type"] content with
    | some [locals, expressions, type] => do
      let locals ← withDefault locals [] (list? (Parameter.decode .inner))
      let expressions ← required expressions (list? expr)
      let type ← typeSlot? .inner type
      return .block locals expressions type
    | _ => none
  | .switch =>
    match slots? ["switchValue", "cases", "defaultBody", "type"] content with
    | some [subject, cases, defaultBody, type] => do
      let subject ← required subject expr
      let cases ← required cases (list? (SwitchCase.decode expr))
      let defaultBody ← nullable defaultBody expr
      let type ← typeSlot? .inner type
      return .switch subject cases defaultBody type
    | _ => none
  | .tryCatch =>
    match slots? ["body", "handlers", "fault", "finally", "type"] content with
    | some [body, handlers, fault, finalizer, type] => do
      let body ← required body expr
      let handlers ← withDefault handlers [] (list? (CatchBlock.decode expr .inner))
      let fault ← nullable fault expr
      let finalizer ← nullable finalizer expr
      let type ← typeSlot? .inner type
      return .tryCatch body handlers fault finalizer type
    | _ => none
  | .label =>
    match slots? ["target", "type"] content with
    | some [target, type] => do
      let target ← required target LabelTarget.decode
      let type ← typeSlot? .inner type
      return .label target type
    | _ => none
  | .goto =>
    match slots? ["gotoKind", "target", "value", "type"] content with
    | some [kind, target, value, type] => do
      let kind ← required kind (Json.word? .inner)
      let target ← nullable target LabelTarget.decode
      let value ← nullable value expr
      let type ← typeSlot? .inner type
      return .goto kind target value type
    | _ => none
  | .loop =>
    match slots? ["body", "type"] content with
    | some [body, type] => do
      let body ← required body expr
      let type ← typeSlot? .inner type
      return .loop body type
    | _ => none
  | .variablesGroup =>
    match slots? ["variables", "type"] content with
    | some [locals, type] => do
      let locals ← required locals (list? (Parameter.decode .inner))
      let type ← typeSlot? .inner type
      return .variablesGroup locals type
    | _ => none
  | .debugMarker =>
    match slots? ["document", "startLine", "startColumn", "endLine", "endColumn", "isClear", "type"]
        content with
    | some [document, startLine, startColumn, endLine, endColumn, isClear, type] => do
      let document ← required document Json.string?
      let startLine ← withDefault startLine 0 Json.uint32?
      let startColumn ← withDefault startColumn 0 Json.uint32?
      let endLine ← withDefault endLine 0 Json.uint32?
      let endColumn ← withDefault endColumn 0 Json.uint32?
      let isClear ← withDefault isClear false Json.bool?
      let type ← typeSlot? .inner type
      return .debugMarker ⟨document, startLine, startColumn, endLine, endColumn, isClear⟩ type
    | _ => none
  | .late =>
    match slots? ["operation", "arguments", "type"] content with
    | some [operation, arguments, type] => do
      let operation ← required operation LateOperation.decode
      let arguments ← required arguments (list? expr)
      let type ← typeSlot? .inner type
      return .late operation arguments type
    | _ => none

/-- Reads an expression that is at most `levels` expressions deep. -/
def Expr.decode (keep : Json → Json) : (levels : Nat) → (nesting : Nesting) → Json → Option Expr
  | 0, _, _ => none
  | levels + 1, nesting, json => do
    let (form, content) ← json.choice? "kind"
    let kind ← Json.form? nesting form
    Expr.decodeForm keep (Expr.decode keep levels .inner) levels content kind

/-- Reads an expression from a JSON value. -/
def Expr.ofJson? (json : Json) : Option Expr :=
  Expr.decode id (json.depth + 1) .outer json

/-- Reads an expression from JSON text. -/
def Expr.ofText? (text : String) : Option Expr := do
  let json ← Json.parse? text
  Expr.decode Json.collapse (json.depth + 1) .outer json

end AqlPipeline
