import AqlPipeline.Expr.Static
import AqlPipeline.Render.Construct
import AqlPipeline.Render.Statement

/-!
# Changing right operands

A change of the right operands of an expression, whether the operator is bound before the query runs
or while it does.  It does not show in anything that is asked about the expression itself.
-/

namespace AqlPipeline

/-- Applies a change to the second argument of an operator that is bound while the query runs. -/
def LateOperation.onRight (change : BinaryOperator → Expr → Expr) :
    LateOperation → List Expr → List Expr
  | .binaryOp operator, [left, right] => [left, change operator right]
  | _, arguments => arguments

mutual

/-- Applies a change to each right operand of an expression, inner ones first. -/
def Expr.onRight (change : BinaryOperator → Expr → Expr) : Expr → Expr
  | .binary operator left right type =>
    .binary operator (left.onRight change) (change operator (right.onRight change)) type
  | .unary operator operand type => .unary operator (Expr.optionOnRight change operand) type
  | .lambda parameters body type => .lambda parameters (body.onRight change) type
  | .parameter reference => .parameter reference
  | .constant value type => .constant value type
  | .captured name value type => .captured name value type
  | .memberAccess owner member type => .memberAccess (Expr.optionOnRight change owner) member type
  | .newObject new => .newObject (new.onRight change)
  | .call target method arguments type =>
    .call (Expr.optionOnRight change target) method (Expr.listOnRight change arguments) type
  | .memberInit new bindings =>
    .memberInit (new.onRight change) (Binding.listOnRight change bindings)
  | .listInit new initializers =>
    .listInit (new.onRight change) (ElementInit.listOnRight change initializers)
  | .newArray kind items type => .newArray kind (Expr.listOnRight change items) type
  | .conditional test ifTrue ifFalse type =>
    .conditional (test.onRight change) (ifTrue.onRight change) (ifFalse.onRight change) type
  | .defaultValue type => .defaultValue type
  | .typeTest kind subject operand type => .typeTest kind (subject.onRight change) operand type
  | .invocation function arguments type =>
    .invocation (function.onRight change) (Expr.listOnRight change arguments) type
  | .index object arguments type =>
    .index (object.onRight change) (Expr.listOnRight change arguments) type
  | .block locals expressions type => .block locals (Expr.listOnRight change expressions) type
  | .switch subject cases defaultBody type =>
    .switch (subject.onRight change) (SwitchCase.listOnRight change cases)
      (Expr.optionOnRight change defaultBody) type
  | .tryCatch body handlers fault finalizer type =>
    .tryCatch (body.onRight change) (CatchBlock.listOnRight change handlers)
      (Expr.optionOnRight change fault) (Expr.optionOnRight change finalizer) type
  | .label target type => .label target type
  | .goto kind target value type => .goto kind target (Expr.optionOnRight change value) type
  | .loop body type => .loop (body.onRight change) type
  | .variablesGroup locals type => .variablesGroup locals type
  | .debugMarker marker type => .debugMarker marker type
  | .late operation arguments type =>
    .late operation (operation.onRight change (Expr.listOnRight change arguments)) type

/-- The change inside of an expression that may be missing. -/
def Expr.optionOnRight (change : BinaryOperator → Expr → Expr) : Option Expr → Option Expr
  | none => none
  | some expr => some (expr.onRight change)

/-- The change inside of some expressions. -/
def Expr.listOnRight (change : BinaryOperator → Expr → Expr) : List Expr → List Expr
  | [] => []
  | expr :: exprs => expr.onRight change :: Expr.listOnRight change exprs

/-- The change inside of a constructor call. -/
def NewObject.onRight (change : BinaryOperator → Expr → Expr) : NewObject → NewObject
  | .mk arguments members type => .mk (Expr.listOnRight change arguments) members type

/-- The change inside of a binding. -/
def Binding.onRight (change : BinaryOperator → Expr → Expr) : Binding → Binding
  | .assignment member value => .assignment member (value.onRight change)
  | .nested member bindings => .nested member (Binding.listOnRight change bindings)
  | .list member initializers => .list member (ElementInit.listOnRight change initializers)

/-- The change inside of some bindings. -/
def Binding.listOnRight (change : BinaryOperator → Expr → Expr) : List Binding → List Binding
  | [] => []
  | binding :: bindings => binding.onRight change :: Binding.listOnRight change bindings

/-- The change inside of the arguments for one item. -/
def ElementInit.onRight (change : BinaryOperator → Expr → Expr) : ElementInit → ElementInit
  | .mk arguments => .mk (Expr.listOnRight change arguments)

/-- The change inside of the arguments for some items. -/
def ElementInit.listOnRight (change : BinaryOperator → Expr → Expr) :
    List ElementInit → List ElementInit
  | [] => []
  | init :: inits => init.onRight change :: ElementInit.listOnRight change inits

/-- The change inside of a case. -/
def SwitchCase.onRight (change : BinaryOperator → Expr → Expr) : SwitchCase → SwitchCase
  | .mk testValues body => .mk (Expr.listOnRight change testValues) (body.onRight change)

/-- The change inside of some cases. -/
def SwitchCase.listOnRight (change : BinaryOperator → Expr → Expr) :
    List SwitchCase → List SwitchCase
  | [] => []
  | first :: cases => first.onRight change :: SwitchCase.listOnRight change cases

/-- The change inside of a handler. -/
def CatchBlock.onRight (change : BinaryOperator → Expr → Expr) : CatchBlock → CatchBlock
  | .mk test exception filter body =>
    .mk test exception (Expr.optionOnRight change filter) (body.onRight change)

/-- The change inside of some handlers. -/
def CatchBlock.listOnRight (change : BinaryOperator → Expr → Expr) :
    List CatchBlock → List CatchBlock
  | [] => []
  | handler :: handlers => handler.onRight change :: CatchBlock.listOnRight change handlers

end

/-! ## What is asked about an expression -/

/-- Whether an expression is a member. -/
def Expr.isMember : Expr → Bool
  | .memberAccess .. => true
  | _ => false

/-- The value of an expression that is a constant. -/
def Expr.constant? : Expr → Option Json
  | .constant value _ => some value
  | _ => none

section Views

variable (change : BinaryOperator → Expr → Expr)

@[simp] theorem Expr.type_onRight (expr : Expr) : (expr.onRight change).type = expr.type := by
  cases expr with
  | newObject new => cases new; rfl
  | memberInit new => cases new; rfl
  | listInit new => cases new; rfl
  | _ => rfl

@[simp] theorem NewObject.type_onRight (new : NewObject) :
    (new.onRight change).type = new.type := by
  cases new; rfl

@[simp] theorem Expr.listOnRight_length (exprs : List Expr) :
    (Expr.listOnRight change exprs).length = exprs.length := by
  induction exprs with
  | nil => rfl
  | cons expr exprs ih => simp [Expr.listOnRight, ih]

@[simp] theorem Expr.memberName?_onRight (expr : Expr) :
    (expr.onRight change).memberName? = expr.memberName? := by
  cases expr <;> rfl

@[simp] theorem Expr.isMember_onRight (expr : Expr) :
    (expr.onRight change).isMember = expr.isMember := by
  cases expr <;> rfl

@[simp] theorem Expr.constant?_onRight (expr : Expr) :
    (expr.onRight change).constant? = expr.constant? := by
  cases expr <;> rfl

@[simp] theorem Expr.isEmpty_onRight (expr : Expr) :
    (expr.onRight change).isEmpty = expr.isEmpty := by
  cases expr <;> rfl

namespace Render

@[simp] theorem holdsCaptures_onRight (expr : Expr) :
    holdsCaptures (expr.onRight change) = holdsCaptures expr := by
  cases expr <;> rfl

@[simp] theorem isLabel_onRight (expr : Expr) : isLabel (expr.onRight change) = isLabel expr := by
  cases expr <;> rfl

@[simp] theorem isVariablesGroup_onRight (expr : Expr) :
    isVariablesGroup (expr.onRight change) = isVariablesGroup expr := by
  cases expr <;> rfl

@[simp] theorem statementEnd_onRight (expr : Expr) :
    statementEnd (expr.onRight change) = statementEnd expr := by
  cases expr with
  | unary operator => cases operator <;> rfl
  | _ => rfl

@[simp] theorem isLongBlock_onRight (expr : Expr) :
    isLongBlock (expr.onRight change) = isLongBlock expr := by
  cases expr with
  | block => simp [Expr.onRight, isLongBlock, Expr.hasMultipleLines]
  | _ => rfl

@[simp] theorem isInlined_onRight (expr : Expr) :
    isInlined (expr.onRight change) = isInlined expr := by
  fun_induction isInlined expr with
  | case3 single type ih => exact ih
  | case4 locals expressions type several notSingle =>
      match locals, expressions with
      | _ :: _, _ => rfl
      | [], [] => exact absurd rfl (several rfl)
      | [], [single] => exact absurd rfl (notSingle single rfl)
      | [], _ :: _ :: _ => rfl
  | case10 expr =>
      cases expr with
      | unary operator => cases operator <;> grind [Expr.onRight, isInlined]
      | _ => grind [Expr.onRight, isInlined]
  | _ => rfl

end Render

end Views

end AqlPipeline
