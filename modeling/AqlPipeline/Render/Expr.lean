import AqlPipeline.Render.Call
import AqlPipeline.Render.Late
import AqlPipeline.Render.Statement

/-!
# Scripts of expressions

What writing an expression, and each of the things that hang off one, does.
-/

namespace AqlPipeline

mutual

/-- What writing an expression does, where it stands as the placement says. -/
def Expr.script (dialect : Dialect) : Expr → Placement → Script
  | .binary operator left right _, _ =>
    Render.binary operator "Left" ⟨left, left.script dialect⟩ "Right" ⟨right, right.script dialect⟩
  | .unary operator none _, _ => Render.bare operator
  | .unary operator (some operand) type, _ =>
    Render.unary dialect operator "Operand" ⟨operand, operand.script dialect⟩ type
  | .lambda parameters body _, _ => Render.lambda parameters ⟨body, body.script dialect⟩
  | .parameter reference, _ => .write reference.name
  | .constant value type, _ => .write (dialect.literal value type)
  | .captured name value _, _ => .bindNamed name value
  | .memberAccess owner member type, _ =>
    Render.memberAccess dialect (Expr.optionalPart dialect owner) member type
  | .newObject new, _ => new.script dialect
  | .call target method arguments _, _ =>
    Render.call dialect (Expr.optionalPart dialect target) method (Expr.parts dialect arguments)
      (Expr.itemScriptsAt dialect arguments)
  | .memberInit new bindings, _ =>
    Render.memberInit new (new.script dialect) (Binding.scripts dialect bindings)
  | .listInit _ initializers, _ => Render.listInit (ElementInit.scripts dialect initializers)
  | .newArray kind items type, _ => Render.newArray dialect kind (Expr.parts dialect items) type
  | .conditional test ifTrue ifFalse type, _ =>
    Render.conditional ⟨test, test.script dialect⟩ ⟨ifTrue, ifTrue.script dialect⟩
      ⟨ifFalse, ifFalse.script dialect⟩ type
  | .defaultValue type, _ => .write ("default(" ++ dialect.typeName type ++ ")")
  | .typeTest kind subject operand _, _ =>
    Render.typeTest dialect kind ⟨subject, subject.script dialect⟩ operand
  | .invocation function arguments _, _ =>
    Render.invocation ⟨function, function.script dialect⟩ (Expr.parts dialect arguments)
  | .index object arguments _, _ =>
    Render.element "Object" ⟨object, object.script dialect⟩
      (Render.keys 0 (Expr.parts dialect arguments))
  | .block locals expressions _, placement =>
    Render.block locals (Expr.parts dialect expressions) placement
  | .switch subject cases defaultBody _, _ =>
    Render.switch ⟨subject, subject.script dialect⟩ (SwitchCase.scripts dialect cases)
      (Expr.optionalPart dialect defaultBody)
  | .tryCatch body handlers fault finalizer _, _ =>
    Render.tryCatch ⟨body, body.script dialect⟩ (CatchBlock.scripts dialect handlers)
      (Expr.optionalPart dialect fault) (Expr.optionalPart dialect finalizer)
  | .label target _, _ => Render.label target
  | .goto kind target value _, _ => Render.goto kind target (Expr.optionalPart dialect value)
  | .loop body _, _ => Render.loop ⟨body, body.script dialect⟩
  | .variablesGroup locals _, _ => Render.variablesGroup locals
  | .debugMarker marker _, _ => Render.debugMarker marker
  | .late operation arguments type, _ =>
    Render.late dialect operation (Expr.parts dialect arguments) type

/-- What writing each item of a new array does. Other expressions have no items. -/
def Expr.itemScripts (dialect : Dialect) : Expr → List Script
  | .newArray .init items _ => Expr.scripts dialect items
  | _ => []

/-- What writing each item of one of some expressions does. -/
def Expr.itemScriptsAt (dialect : Dialect) : List Expr → (index : Nat) → List Script
  | [], _ => []
  | expr :: _, 0 => expr.itemScripts dialect
  | _ :: exprs, index + 1 => Expr.itemScriptsAt dialect exprs index

/-- What writing each of some expressions does. -/
def Expr.scripts (dialect : Dialect) : List Expr → List Script
  | [] => []
  | expr :: exprs => expr.script dialect {} :: Expr.scripts dialect exprs

/-- Expressions as parts of another one. -/
def Expr.parts (dialect : Dialect) : List Expr → List Part
  | [] => []
  | expr :: exprs => ⟨expr, expr.script dialect⟩ :: Expr.parts dialect exprs

/-- An expression that may be missing as a part of another one. -/
def Expr.optionalPart (dialect : Dialect) : Option Expr → Option Part
  | none => none
  | some expr => some ⟨expr, expr.script dialect⟩

/-- What writing a constructor call does. -/
def NewObject.script (dialect : Dialect) : NewObject → Script
  | .mk arguments members type => Render.newObject (Expr.parts dialect arguments) members type

/-- What writing a binding does. -/
def Binding.script (dialect : Dialect) : Binding → Script
  | .assignment member value =>
    Render.assigned member (.enter "Expression" (value.script dialect {}))
  | .nested member bindings =>
    Render.assigned member (Render.braced "Bindings" (Binding.scripts dialect bindings))
  | .list member initializers =>
    Render.assigned member (Render.braced "Initializers" (ElementInit.scripts dialect initializers))

/-- What writing each of some bindings does. -/
def Binding.scripts (dialect : Dialect) : List Binding → List Script
  | [] => []
  | binding :: bindings => binding.script dialect :: Binding.scripts dialect bindings

/-- What writing the arguments of one item does. -/
def ElementInit.script (dialect : Dialect) : ElementInit → Script
  | .mk arguments => Render.elementInit (Expr.parts dialect arguments)

/-- What writing the arguments of each of some items does. -/
def ElementInit.scripts (dialect : Dialect) : List ElementInit → List Script
  | [] => []
  | init :: inits => init.script dialect :: ElementInit.scripts dialect inits

/-- What writing a case does. It leaves the level of indentation one higher. -/
def SwitchCase.script (dialect : Dialect) : SwitchCase → Script
  | .mk values body =>
    Render.switchCase (Expr.parts dialect values) ⟨body, body.script dialect⟩

/-- What writing each of some cases does. -/
def SwitchCase.scripts (dialect : Dialect) : List SwitchCase → List Script
  | [] => []
  | first :: cases => first.script dialect :: SwitchCase.scripts dialect cases

/-- What writing a handler does. -/
def CatchBlock.script (dialect : Dialect) : CatchBlock → Script
  | .mk test exception filter body =>
    Render.catchBlock dialect test exception (Expr.optionalPart dialect filter)
      ⟨body, body.script dialect⟩

/-- What writing each of some handlers does. -/
def CatchBlock.scripts (dialect : Dialect) : List CatchBlock → List Script
  | [] => []
  | handler :: handlers => handler.script dialect :: CatchBlock.scripts dialect handlers

end

/-- What declaring an expression does: a parameter becomes known, anything else is written. -/
def Expr.declaration (dialect : Dialect) (expr : Expr) (placement : Placement) : Script :=
  match expr with
  | .parameter reference => Render.declaration reference
  | expr => expr.script dialect placement

end AqlPipeline
