import AqlPipeline.Proofs.Expr.Nodes

/-!
# Changing the nodes of an expression

A change of every node of an expression, from the inside to the outside.  What it leaves alone
everywhere, it leaves alone as a whole.
-/

namespace AqlPipeline

mutual

/-- Applies a change to each node of an expression, inner ones first. -/
def Expr.mapNodes (change : Expr → Expr) : Expr → Expr
  | .binary operator left right type =>
    change (.binary operator (left.mapNodes change) (right.mapNodes change) type)
  | .unary operator operand type =>
    change (.unary operator (Expr.optionMapNodes change operand) type)
  | .lambda parameters body type => change (.lambda parameters (body.mapNodes change) type)
  | .parameter reference => change (.parameter reference)
  | .constant value type => change (.constant value type)
  | .captured name value type => change (.captured name value type)
  | .memberAccess owner member type =>
    change (.memberAccess (Expr.optionMapNodes change owner) member type)
  | .newObject new => change (.newObject (new.mapNodes change))
  | .call target method arguments type =>
    change (.call (Expr.optionMapNodes change target) method (Expr.listMapNodes change arguments)
      type)
  | .memberInit new bindings =>
    change (.memberInit (new.mapNodes change) (Binding.listMapNodes change bindings))
  | .listInit new initializers =>
    change (.listInit (new.mapNodes change) (ElementInit.listMapNodes change initializers))
  | .newArray kind items type => change (.newArray kind (Expr.listMapNodes change items) type)
  | .conditional test ifTrue ifFalse type =>
    change (.conditional (test.mapNodes change) (ifTrue.mapNodes change) (ifFalse.mapNodes change)
      type)
  | .defaultValue type => change (.defaultValue type)
  | .typeTest kind subject operand type =>
    change (.typeTest kind (subject.mapNodes change) operand type)
  | .invocation function arguments type =>
    change (.invocation (function.mapNodes change) (Expr.listMapNodes change arguments) type)
  | .index object arguments type =>
    change (.index (object.mapNodes change) (Expr.listMapNodes change arguments) type)
  | .block locals expressions type =>
    change (.block locals (Expr.listMapNodes change expressions) type)
  | .switch subject cases defaultBody type =>
    change (.switch (subject.mapNodes change) (SwitchCase.listMapNodes change cases)
      (Expr.optionMapNodes change defaultBody) type)
  | .tryCatch body handlers fault finalizer type =>
    change (.tryCatch (body.mapNodes change) (CatchBlock.listMapNodes change handlers)
      (Expr.optionMapNodes change fault) (Expr.optionMapNodes change finalizer) type)
  | .label target type => change (.label target type)
  | .goto kind target value type =>
    change (.goto kind target (Expr.optionMapNodes change value) type)
  | .loop body type => change (.loop (body.mapNodes change) type)
  | .variablesGroup locals type => change (.variablesGroup locals type)
  | .debugMarker marker type => change (.debugMarker marker type)
  | .late operation arguments type =>
    change (.late operation (Expr.listMapNodes change arguments) type)

/-- The change of the nodes of an expression that may be missing. -/
def Expr.optionMapNodes (change : Expr → Expr) : Option Expr → Option Expr
  | none => none
  | some expr => some (expr.mapNodes change)

/-- The change of the nodes of some expressions. -/
def Expr.listMapNodes (change : Expr → Expr) : List Expr → List Expr
  | [] => []
  | expr :: exprs => expr.mapNodes change :: Expr.listMapNodes change exprs

/-- The change of the nodes of a constructor call. -/
def NewObject.mapNodes (change : Expr → Expr) : NewObject → NewObject
  | .mk arguments members type => .mk (Expr.listMapNodes change arguments) members type

/-- The change of the nodes of a binding. -/
def Binding.mapNodes (change : Expr → Expr) : Binding → Binding
  | .assignment member value => .assignment member (value.mapNodes change)
  | .nested member bindings => .nested member (Binding.listMapNodes change bindings)
  | .list member initializers => .list member (ElementInit.listMapNodes change initializers)

/-- The change of the nodes of some bindings. -/
def Binding.listMapNodes (change : Expr → Expr) : List Binding → List Binding
  | [] => []
  | binding :: bindings => binding.mapNodes change :: Binding.listMapNodes change bindings

/-- The change of the nodes of the arguments for one item. -/
def ElementInit.mapNodes (change : Expr → Expr) : ElementInit → ElementInit
  | .mk arguments => .mk (Expr.listMapNodes change arguments)

/-- The change of the nodes of the arguments for some items. -/
def ElementInit.listMapNodes (change : Expr → Expr) : List ElementInit → List ElementInit
  | [] => []
  | init :: inits => init.mapNodes change :: ElementInit.listMapNodes change inits

/-- The change of the nodes of a case. -/
def SwitchCase.mapNodes (change : Expr → Expr) : SwitchCase → SwitchCase
  | .mk testValues body => .mk (Expr.listMapNodes change testValues) (body.mapNodes change)

/-- The change of the nodes of some cases. -/
def SwitchCase.listMapNodes (change : Expr → Expr) : List SwitchCase → List SwitchCase
  | [] => []
  | first :: cases => first.mapNodes change :: SwitchCase.listMapNodes change cases

/-- The change of the nodes of a handler. -/
def CatchBlock.mapNodes (change : Expr → Expr) : CatchBlock → CatchBlock
  | .mk test exception filter body =>
    .mk test exception (Expr.optionMapNodes change filter) (body.mapNodes change)

/-- The change of the nodes of some handlers. -/
def CatchBlock.listMapNodes (change : Expr → Expr) : List CatchBlock → List CatchBlock
  | [] => []
  | handler :: handlers => handler.mapNodes change :: CatchBlock.listMapNodes change handlers

end

/-! ## Nodes that stay as they are -/

/-- Whether a change leaves some nodes as they are. -/
def Fixes (change : Expr → Expr) (nodes : List Expr) : Prop :=
  ∀ node ∈ nodes, change node = node

namespace Fixes

variable {change : Expr → Expr} {node : Expr} {nodes first second : List Expr}

theorem left (fixes : Fixes change (first ++ second)) : Fixes change first :=
  fun node member => fixes node (List.mem_append_left second member)

theorem right (fixes : Fixes change (first ++ second)) : Fixes change second :=
  fun node member => fixes node (List.mem_append_right first member)

theorem head (fixes : Fixes change (node :: nodes)) : change node = node :=
  fixes node List.mem_cons_self

theorem tail (fixes : Fixes change (node :: nodes)) : Fixes change nodes :=
  fun other member => fixes other (List.mem_cons_of_mem node member)

end Fixes

variable {change : Expr → Expr}

mutual

/-- A change that leaves every node as it is leaves the expression as it is. -/
theorem Expr.mapNodes_of_fixes : (expr : Expr) → Fixes change expr.nodes →
    expr.mapNodes change = expr
  | .binary _ left right _, fixes => by
    rw [Expr.mapNodes, left.mapNodes_of_fixes fixes.tail.left,
      right.mapNodes_of_fixes fixes.tail.right, fixes.head]
  | .unary _ operand _, fixes => by
    rw [Expr.mapNodes, Expr.optionMapNodes_of_fixes operand fixes.tail, fixes.head]
  | .lambda _ body _, fixes => by
    rw [Expr.mapNodes, body.mapNodes_of_fixes fixes.tail, fixes.head]
  | .parameter _, fixes => fixes.head
  | .constant _ _, fixes => fixes.head
  | .captured _ _ _, fixes => fixes.head
  | .memberAccess owner _ _, fixes => by
    rw [Expr.mapNodes, Expr.optionMapNodes_of_fixes owner fixes.tail, fixes.head]
  | .newObject new, fixes => by
    rw [Expr.mapNodes, new.mapNodes_of_fixes fixes.tail, fixes.head]
  | .call target _ arguments _, fixes => by
    rw [Expr.mapNodes, Expr.optionMapNodes_of_fixes target fixes.tail.left,
      Expr.listMapNodes_of_fixes arguments fixes.tail.right, fixes.head]
  | .memberInit new bindings, fixes => by
    rw [Expr.mapNodes, new.mapNodes_of_fixes fixes.tail.left,
      Binding.listMapNodes_of_fixes bindings fixes.tail.right, fixes.head]
  | .listInit new initializers, fixes => by
    rw [Expr.mapNodes, new.mapNodes_of_fixes fixes.tail.left,
      ElementInit.listMapNodes_of_fixes initializers fixes.tail.right, fixes.head]
  | .newArray _ items _, fixes => by
    rw [Expr.mapNodes, Expr.listMapNodes_of_fixes items fixes.tail, fixes.head]
  | .conditional test ifTrue ifFalse _, fixes => by
    rw [Expr.mapNodes, test.mapNodes_of_fixes fixes.tail.left,
      ifTrue.mapNodes_of_fixes fixes.tail.right.left,
      ifFalse.mapNodes_of_fixes fixes.tail.right.right, fixes.head]
  | .defaultValue _, fixes => fixes.head
  | .typeTest _ subject _ _, fixes => by
    rw [Expr.mapNodes, subject.mapNodes_of_fixes fixes.tail, fixes.head]
  | .invocation function arguments _, fixes => by
    rw [Expr.mapNodes, function.mapNodes_of_fixes fixes.tail.left,
      Expr.listMapNodes_of_fixes arguments fixes.tail.right, fixes.head]
  | .index object arguments _, fixes => by
    rw [Expr.mapNodes, object.mapNodes_of_fixes fixes.tail.left,
      Expr.listMapNodes_of_fixes arguments fixes.tail.right, fixes.head]
  | .block _ expressions _, fixes => by
    rw [Expr.mapNodes, Expr.listMapNodes_of_fixes expressions fixes.tail, fixes.head]
  | .switch subject cases defaultBody _, fixes => by
    rw [Expr.mapNodes, subject.mapNodes_of_fixes fixes.tail.left,
      SwitchCase.listMapNodes_of_fixes cases fixes.tail.right.left,
      Expr.optionMapNodes_of_fixes defaultBody fixes.tail.right.right, fixes.head]
  | .tryCatch body handlers fault finalizer _, fixes => by
    rw [Expr.mapNodes, body.mapNodes_of_fixes fixes.tail.left,
      CatchBlock.listMapNodes_of_fixes handlers fixes.tail.right.left,
      Expr.optionMapNodes_of_fixes fault fixes.tail.right.right.left,
      Expr.optionMapNodes_of_fixes finalizer fixes.tail.right.right.right, fixes.head]
  | .label _ _, fixes => fixes.head
  | .goto _ _ value _, fixes => by
    rw [Expr.mapNodes, Expr.optionMapNodes_of_fixes value fixes.tail, fixes.head]
  | .loop body _, fixes => by
    rw [Expr.mapNodes, body.mapNodes_of_fixes fixes.tail, fixes.head]
  | .variablesGroup _ _, fixes => fixes.head
  | .debugMarker _ _, fixes => fixes.head
  | .late _ arguments _, fixes => by
    rw [Expr.mapNodes, Expr.listMapNodes_of_fixes arguments fixes.tail, fixes.head]

theorem Expr.optionMapNodes_of_fixes : (expr : Option Expr) →
    Fixes change (Expr.optionNodes expr) → Expr.optionMapNodes change expr = expr
  | none, _ => rfl
  | some expr, fixes => congrArg some (expr.mapNodes_of_fixes fixes)

theorem Expr.listMapNodes_of_fixes : (exprs : List Expr) →
    Fixes change (Expr.listNodes exprs) → Expr.listMapNodes change exprs = exprs
  | [], _ => rfl
  | expr :: exprs, fixes => by
    rw [Expr.listMapNodes, expr.mapNodes_of_fixes fixes.left,
      Expr.listMapNodes_of_fixes exprs fixes.right]

theorem NewObject.mapNodes_of_fixes : (new : NewObject) → Fixes change new.nodes →
    new.mapNodes change = new
  | .mk arguments _ _, fixes => by
    rw [NewObject.mapNodes, Expr.listMapNodes_of_fixes arguments fixes]

theorem Binding.mapNodes_of_fixes : (binding : Binding) → Fixes change binding.nodes →
    binding.mapNodes change = binding
  | .assignment _ value, fixes => by
    rw [Binding.mapNodes, value.mapNodes_of_fixes fixes]
  | .nested _ bindings, fixes => by
    rw [Binding.mapNodes, Binding.listMapNodes_of_fixes bindings fixes]
  | .list _ initializers, fixes => by
    rw [Binding.mapNodes, ElementInit.listMapNodes_of_fixes initializers fixes]

theorem Binding.listMapNodes_of_fixes : (bindings : List Binding) →
    Fixes change (Binding.listNodes bindings) → Binding.listMapNodes change bindings = bindings
  | [], _ => rfl
  | binding :: bindings, fixes => by
    rw [Binding.listMapNodes, binding.mapNodes_of_fixes fixes.left,
      Binding.listMapNodes_of_fixes bindings fixes.right]

theorem ElementInit.mapNodes_of_fixes : (init : ElementInit) → Fixes change init.nodes →
    init.mapNodes change = init
  | .mk arguments, fixes => by
    rw [ElementInit.mapNodes, Expr.listMapNodes_of_fixes arguments fixes]

theorem ElementInit.listMapNodes_of_fixes : (inits : List ElementInit) →
    Fixes change (ElementInit.listNodes inits) → ElementInit.listMapNodes change inits = inits
  | [], _ => rfl
  | init :: inits, fixes => by
    rw [ElementInit.listMapNodes, init.mapNodes_of_fixes fixes.left,
      ElementInit.listMapNodes_of_fixes inits fixes.right]

theorem SwitchCase.mapNodes_of_fixes : (first : SwitchCase) → Fixes change first.nodes →
    first.mapNodes change = first
  | .mk testValues body, fixes => by
    rw [SwitchCase.mapNodes, Expr.listMapNodes_of_fixes testValues fixes.left,
      body.mapNodes_of_fixes fixes.right]

theorem SwitchCase.listMapNodes_of_fixes : (cases : List SwitchCase) →
    Fixes change (SwitchCase.listNodes cases) → SwitchCase.listMapNodes change cases = cases
  | [], _ => rfl
  | first :: cases, fixes => by
    rw [SwitchCase.listMapNodes, first.mapNodes_of_fixes fixes.left,
      SwitchCase.listMapNodes_of_fixes cases fixes.right]

theorem CatchBlock.mapNodes_of_fixes : (handler : CatchBlock) → Fixes change handler.nodes →
    handler.mapNodes change = handler
  | .mk _ _ filter body, fixes => by
    rw [CatchBlock.mapNodes, Expr.optionMapNodes_of_fixes filter fixes.left,
      body.mapNodes_of_fixes fixes.right]

theorem CatchBlock.listMapNodes_of_fixes : (handlers : List CatchBlock) →
    Fixes change (CatchBlock.listNodes handlers) →
    CatchBlock.listMapNodes change handlers = handlers
  | [], _ => rfl
  | handler :: handlers, fixes => by
    rw [CatchBlock.listMapNodes, handler.mapNodes_of_fixes fixes.left,
      CatchBlock.listMapNodes_of_fixes handlers fixes.right]

end

end AqlPipeline
