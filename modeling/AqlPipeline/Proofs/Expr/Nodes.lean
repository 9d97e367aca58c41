import AqlPipeline.Expr.Basic

/-!
# The nodes of an expression

All expressions that an expression is made of, itself included.
-/

namespace AqlPipeline

mutual

/-- The expressions that an expression is made of, each one before those inside of it. -/
def Expr.nodes : Expr → List Expr
  | .binary operator left right type =>
    .binary operator left right type :: (left.nodes ++ right.nodes)
  | .unary operator operand type => .unary operator operand type :: Expr.optionNodes operand
  | .lambda parameters body type => .lambda parameters body type :: body.nodes
  | .parameter reference => [.parameter reference]
  | .constant value type => [.constant value type]
  | .captured name value type => [.captured name value type]
  | .memberAccess owner member type => .memberAccess owner member type :: Expr.optionNodes owner
  | .newObject new => .newObject new :: new.nodes
  | .call target method arguments type =>
    .call target method arguments type :: (Expr.optionNodes target ++ Expr.listNodes arguments)
  | .memberInit new bindings =>
    .memberInit new bindings :: (new.nodes ++ Binding.listNodes bindings)
  | .listInit new initializers =>
    .listInit new initializers :: (new.nodes ++ ElementInit.listNodes initializers)
  | .newArray kind items type => .newArray kind items type :: Expr.listNodes items
  | .conditional test ifTrue ifFalse type =>
    .conditional test ifTrue ifFalse type :: (test.nodes ++ (ifTrue.nodes ++ ifFalse.nodes))
  | .defaultValue type => [.defaultValue type]
  | .typeTest kind subject operand type => .typeTest kind subject operand type :: subject.nodes
  | .invocation function arguments type =>
    .invocation function arguments type :: (function.nodes ++ Expr.listNodes arguments)
  | .index object arguments type =>
    .index object arguments type :: (object.nodes ++ Expr.listNodes arguments)
  | .block locals expressions type => .block locals expressions type :: Expr.listNodes expressions
  | .switch subject cases defaultBody type =>
    .switch subject cases defaultBody type ::
      (subject.nodes ++ (SwitchCase.listNodes cases ++ Expr.optionNodes defaultBody))
  | .tryCatch body handlers fault finalizer type =>
    .tryCatch body handlers fault finalizer type ::
      (body.nodes ++ (CatchBlock.listNodes handlers ++
        (Expr.optionNodes fault ++ Expr.optionNodes finalizer)))
  | .label target type => [.label target type]
  | .goto kind target value type => .goto kind target value type :: Expr.optionNodes value
  | .loop body type => .loop body type :: body.nodes
  | .variablesGroup locals type => [.variablesGroup locals type]
  | .debugMarker marker type => [.debugMarker marker type]
  | .late operation arguments type => .late operation arguments type :: Expr.listNodes arguments

/-- The nodes of an expression that may be missing. -/
def Expr.optionNodes : Option Expr → List Expr
  | none => []
  | some expr => expr.nodes

/-- The nodes of some expressions. -/
def Expr.listNodes : List Expr → List Expr
  | [] => []
  | expr :: exprs => expr.nodes ++ Expr.listNodes exprs

/-- The nodes of a constructor call. -/
def NewObject.nodes : NewObject → List Expr
  | .mk arguments _ _ => Expr.listNodes arguments

/-- The nodes of a binding. -/
def Binding.nodes : Binding → List Expr
  | .assignment _ value => value.nodes
  | .nested _ bindings => Binding.listNodes bindings
  | .list _ initializers => ElementInit.listNodes initializers

/-- The nodes of some bindings. -/
def Binding.listNodes : List Binding → List Expr
  | [] => []
  | binding :: bindings => binding.nodes ++ Binding.listNodes bindings

/-- The nodes of the arguments for one item. -/
def ElementInit.nodes : ElementInit → List Expr
  | .mk arguments => Expr.listNodes arguments

/-- The nodes of the arguments for some items. -/
def ElementInit.listNodes : List ElementInit → List Expr
  | [] => []
  | init :: inits => init.nodes ++ ElementInit.listNodes inits

/-- The nodes of a case. -/
def SwitchCase.nodes : SwitchCase → List Expr
  | .mk testValues body => Expr.listNodes testValues ++ body.nodes

/-- The nodes of some cases. -/
def SwitchCase.listNodes : List SwitchCase → List Expr
  | [] => []
  | first :: cases => first.nodes ++ SwitchCase.listNodes cases

/-- The nodes of a handler. -/
def CatchBlock.nodes : CatchBlock → List Expr
  | .mk _ _ filter body => Expr.optionNodes filter ++ body.nodes

/-- The nodes of some handlers. -/
def CatchBlock.listNodes : List CatchBlock → List Expr
  | [] => []
  | handler :: handlers => handler.nodes ++ CatchBlock.listNodes handlers

end

/-- The names of all members and captured variables of an expression. -/
def Expr.memberNames (expr : Expr) : List String :=
  expr.nodes.filterMap Expr.memberName?

end AqlPipeline
