import AqlPipeline.Proofs.Expr.Nodes
import AqlPipeline.Proofs.Render.AbidesStatements
import AqlPipeline.Render.Expr

/-!
# Expressions abide by rules

By induction on the expression: each form is neutral, as its parts are, if the names and values that
it is written with are accepted.
-/

namespace AqlPipeline

open Script

/-! ## Texts -/

mutual

/-- The members that a binding sets, with those of the bindings inside. -/
def Binding.memberNames : Binding → List String
  | .assignment member _ | .list member _ => [member]
  | .nested member bindings => member :: Binding.listMemberNames bindings

/-- The members that some bindings set. -/
def Binding.listMemberNames : List Binding → List String
  | [] => []
  | binding :: bindings => binding.memberNames ++ Binding.listMemberNames bindings

end

/-- The names that a handler is written with. -/
def CatchBlock.texts : CatchBlock → List String
  | .mk test exception _ _ => test.root.name :: (exception.map Parameter.name).toList

/-- The names, and the texts in values, that an expression itself is written with. -/
def Expr.texts : Expr → List String
  | .unary _ _ type | .newArray _ _ type | .defaultValue type => [type.root.name]
  | .lambda parameters _ _ => parameters.flatMap Parameter.texts
  | .parameter reference => [reference.name]
  | .constant value _ => value.texts
  | .captured name _ _ => [name]
  | .memberAccess _ member _ => [member.name]
  | .newObject new => new.members
  | .call _ method _ _ => [method.name, method.declaringType.root.name]
  | .memberInit new bindings => new.members ++ Binding.listMemberNames bindings
  | .typeTest _ _ operand _ => [operand.root.name]
  | .block locals _ _ => locals.flatMap Parameter.texts
  | .tryCatch _ handlers _ _ _ => handlers.flatMap CatchBlock.texts
  | .label target _ => target.name.toList
  | .goto _ target _ _ => (target.bind LabelTarget.name).toList
  | .variablesGroup locals _ => locals.map Parameter.name
  | .debugMarker marker _ => [marker.document]
  | .late operation _ type => type.root.name :: operation.texts
  | .binary .. | .listInit .. | .conditional .. | .invocation .. | .index .. | .switch ..
  | .loop .. => []

/-- Whether rules accept all texts of some expressions. -/
def Script.Rules.AcceptsAll (rules : Rules) (nodes : List Expr) : Prop :=
  ∀ node ∈ nodes, ∀ text ∈ node.texts, rules.Accepts text

namespace Script.Rules.AcceptsAll

variable {rules : Rules} {node : Expr} {nodes first second : List Expr}

theorem left (accepts : rules.AcceptsAll (first ++ second)) : rules.AcceptsAll first :=
  fun node member => accepts node (List.mem_append_left second member)

theorem right (accepts : rules.AcceptsAll (first ++ second)) : rules.AcceptsAll second :=
  fun node member => accepts node (List.mem_append_right first member)

theorem head (accepts : rules.AcceptsAll (node :: nodes)) :
    ∀ text ∈ node.texts, rules.Accepts text :=
  accepts node List.mem_cons_self

theorem tail (accepts : rules.AcceptsAll (node :: nodes)) : rules.AcceptsAll nodes :=
  fun other member => accepts other (List.mem_cons_of_mem node member)

end Script.Rules.AcceptsAll

/-! ## Scripts -/

variable {rules : Rules} {dialect : Dialect}

/-- A constant format string is a text of the first argument. -/
theorem Expr.constantFormat?_accepted {arguments : List Expr}
    (accepts : rules.AcceptsAll (Expr.listNodes arguments)) :
    ∀ format ∈ Render.constantFormat? (Expr.parts dialect arguments), rules.Accepts format := by
  intro format found
  cases arguments with
  | nil => cases found
  | cons first arguments =>
      rw [Expr.parts, Render.constantFormat?] at found
      split at found
      · rename_i text type first_eq
        cases found
        cases first_eq
        exact accepts.left.head format List.mem_cons_self
      · cases found

mutual

/-- An expression is neutral wherever it stands. -/
theorem Expr.script_neutral (abides : dialect.AbidesBy rules) : (expr : Expr) →
    rules.AcceptsAll expr.nodes → (placement : Placement) →
    Neutral rules (expr.script dialect placement)
  | .binary operator left right _, accepts, _ =>
    Render.binary_neutral operator _ _ (left.script_neutral abides accepts.tail.left)
      (right.script_neutral abides accepts.tail.right)
  | .unary operator none _, _, _ => Render.bare_neutral operator
  | .unary operator (some operand) _, accepts, _ =>
    Render.unary_neutral abides operator _ (operand.script_neutral abides accepts.tail)
      (accepts.head _ List.mem_cons_self)
  | .lambda _ body _, accepts, _ =>
    Render.lambda_neutral accepts.head (body.script_neutral abides accepts.tail)
  | .parameter _, accepts, _ => .writes (accepts.head _ List.mem_cons_self)
  | .constant value type, accepts, _ => .writes (abides.literal value type accepts.head)
  | .captured _ value _, accepts, _ => .bindNamed (accepts.head _ List.mem_cons_self) value
  | .memberAccess owner _ type, accepts, _ =>
    Render.memberAccess_neutral abides type (Expr.optionalPart_neutral abides owner accepts.tail)
      (accepts.head _ List.mem_cons_self)
  | .newObject new, accepts, _ => new.script_neutral abides accepts.head accepts.tail
  | .call target method arguments _, accepts, _ =>
    Render.call_neutral abides (accepts.head _ List.mem_cons_self)
      (accepts.head _ (List.mem_cons_of_mem _ List.mem_cons_self))
      (Expr.constantFormat?_accepted accepts.tail.right)
      (Expr.optionalPart_neutral abides target accepts.tail.left)
      (Expr.parts_neutral abides arguments accepts.tail.right)
      (Expr.itemScriptsAt_neutral abides arguments accepts.tail.right)
  | .memberInit new bindings, accepts, _ => by
    obtain ⟨named, bound⟩ := List.forall_mem_append.mp accepts.head
    exact Render.memberInit_neutral new (new.script_neutral abides named accepts.tail.left)
      (Binding.scripts_neutral abides bindings bound accepts.tail.right)
  | .listInit _ initializers, accepts, _ =>
    Render.listInit_neutral (ElementInit.scripts_neutral abides initializers accepts.tail.right)
  | .newArray kind items _, accepts, _ =>
    Render.newArray_neutral abides kind (accepts.head _ List.mem_cons_self)
      (Expr.parts_neutral abides items accepts.tail)
  | .conditional test ifTrue ifFalse type, accepts, _ =>
    Render.conditional_neutral type (test.script_neutral abides accepts.tail.left)
      (ifTrue.script_neutral abides accepts.tail.right.left)
      (ifFalse.script_neutral abides accepts.tail.right.right)
  | .defaultValue type, accepts, _ =>
    .writes ((abides.typeName type (accepts.head _ List.mem_cons_self)).enclosed ')' (by decide)
      (by decide))
  | .typeTest kind subject _ _, accepts, _ =>
    Render.typeTest_neutral abides kind (subject.script_neutral abides accepts.tail)
      (accepts.head _ List.mem_cons_self)
  | .invocation function arguments _, accepts, _ =>
    Render.invocation_neutral (function.script_neutral abides accepts.tail.left)
      (Expr.parts_neutral abides arguments accepts.tail.right)
  | .index object arguments _, accepts, _ =>
    Render.element_neutral _ (object.script_neutral abides accepts.tail.left)
      (Render.keys_neutral 0 (Expr.parts_neutral abides arguments accepts.tail.right))
  | .block _ expressions _, accepts, placement =>
    Render.block_neutral accepts.head (Expr.parts_neutral abides expressions accepts.tail) placement
  | .switch subject cases defaultBody _, accepts, _ =>
    Render.switch_neutral (subject.script_neutral abides accepts.tail.left)
      (SwitchCase.scripts_neutral abides cases accepts.tail.right.left)
      (Expr.optionalPart_neutral abides defaultBody accepts.tail.right.right)
  | .tryCatch body handlers fault finalizer _, accepts, _ =>
    Render.tryCatch_neutral (body.script_neutral abides accepts.tail.left)
      (CatchBlock.scripts_neutral abides handlers accepts.head accepts.tail.right.left)
      (Expr.optionalPart_neutral abides fault accepts.tail.right.right.left)
      (Expr.optionalPart_neutral abides finalizer accepts.tail.right.right.right)
  | .label _ _, accepts, _ =>
    Render.label_neutral fun name named => accepts.head name (Option.mem_toList.mpr named)
  | .goto kind _ value _, accepts, _ => by
    refine Render.goto_neutral kind ?_ (Expr.optionalPart_neutral abides value accepts.tail)
    intro place found name named
    exact accepts.head name (Option.mem_toList.mpr (Option.bind_eq_some_iff.mpr ⟨_, found, named⟩))
  | .loop body _, accepts, _ => Render.loop_neutral (body.script_neutral abides accepts.tail)
  | .variablesGroup _ _, accepts, _ =>
    Render.variablesGroup_neutral fun _ member => accepts.head _ (List.mem_map_of_mem member)
  | .debugMarker _ _, accepts, _ =>
    Render.debugMarker_neutral (accepts.head _ List.mem_cons_self)
  | .late _ arguments _, accepts, _ => by
    obtain ⟨typed, named⟩ := List.forall_mem_cons.mp accepts.head
    exact Render.late_neutral abides named typed (Expr.parts_neutral abides arguments accepts.tail)

theorem Expr.itemScripts_neutral (abides : dialect.AbidesBy rules) : (expr : Expr) →
    rules.AcceptsAll expr.nodes → ∀ script ∈ expr.itemScripts dialect, Neutral rules script
  | .newArray .init items _, accepts => Expr.scripts_neutral abides items accepts.tail
  | .newArray .bounds _ _, _ => nofun
  | .binary .., _ | .unary .., _ | .lambda .., _ | .parameter _, _ | .constant .., _
  | .captured .., _ | .memberAccess .., _ | .newObject _, _ | .call .., _ | .memberInit .., _
  | .listInit .., _ | .conditional .., _ | .defaultValue _, _ | .typeTest .., _
  | .invocation .., _ | .index .., _ | .block .., _ | .switch .., _ | .tryCatch .., _
  | .label .., _ | .goto .., _ | .loop .., _ | .variablesGroup .., _ | .debugMarker .., _
  | .late .., _ => nofun

theorem Expr.itemScriptsAt_neutral (abides : dialect.AbidesBy rules) : (exprs : List Expr) →
    rules.AcceptsAll (Expr.listNodes exprs) → (index : Nat) →
    ∀ script ∈ Expr.itemScriptsAt dialect exprs index, Neutral rules script
  | [], _, _ => nofun
  | expr :: _, accepts, 0 => expr.itemScripts_neutral abides accepts.left
  | _ :: exprs, accepts, index + 1 => Expr.itemScriptsAt_neutral abides exprs accepts.right index

theorem Expr.scripts_neutral (abides : dialect.AbidesBy rules) : (exprs : List Expr) →
    rules.AcceptsAll (Expr.listNodes exprs) →
    ∀ script ∈ Expr.scripts dialect exprs, Neutral rules script
  | [], _ => nofun
  | expr :: exprs, accepts =>
    List.forall_mem_cons.mpr ⟨expr.script_neutral abides accepts.left {},
      Expr.scripts_neutral abides exprs accepts.right⟩

theorem Expr.parts_neutral (abides : dialect.AbidesBy rules) : (exprs : List Expr) →
    rules.AcceptsAll (Expr.listNodes exprs) →
    ∀ part ∈ Expr.parts dialect exprs, part.IsNeutral rules
  | [], _ => nofun
  | expr :: exprs, accepts =>
    List.forall_mem_cons.mpr ⟨expr.script_neutral abides accepts.left,
      Expr.parts_neutral abides exprs accepts.right⟩

theorem Expr.optionalPart_neutral (abides : dialect.AbidesBy rules) : (expr : Option Expr) →
    rules.AcceptsAll (Expr.optionNodes expr) →
    ∀ part ∈ Expr.optionalPart dialect expr, part.IsNeutral rules
  | none, _ => nofun
  | some expr, accepts => fun _ own =>
    Option.mem_some.mp own ▸ expr.script_neutral abides accepts

theorem NewObject.script_neutral (abides : dialect.AbidesBy rules) : (new : NewObject) →
    (∀ member ∈ new.members, rules.Accepts member) → rules.AcceptsAll new.nodes →
    Neutral rules (new.script dialect)
  | .mk arguments _ type, named, accepts =>
    Render.newObject_neutral type named (Expr.parts_neutral abides arguments accepts)

theorem Binding.script_neutral (abides : dialect.AbidesBy rules) : (binding : Binding) →
    (∀ member ∈ binding.memberNames, rules.Accepts member) → rules.AcceptsAll binding.nodes →
    Neutral rules (binding.script dialect)
  | .assignment _ value, named, accepts =>
    Render.assigned_neutral (named _ List.mem_cons_self)
      ((value.script_neutral abides accepts {}).enter _)
  | .nested _ bindings, named, accepts =>
    Render.assigned_neutral (named _ List.mem_cons_self)
      (Render.braced_neutral _ (Binding.scripts_neutral abides bindings
        (List.forall_mem_cons.mp named).2 accepts))
  | .list _ initializers, named, accepts =>
    Render.assigned_neutral (named _ List.mem_cons_self)
      (Render.braced_neutral _ (ElementInit.scripts_neutral abides initializers accepts))

theorem Binding.scripts_neutral (abides : dialect.AbidesBy rules) : (bindings : List Binding) →
    (∀ member ∈ Binding.listMemberNames bindings, rules.Accepts member) →
    rules.AcceptsAll (Binding.listNodes bindings) →
    ∀ script ∈ Binding.scripts dialect bindings, Neutral rules script
  | [], _, _ => nofun
  | binding :: bindings, named, accepts => by
    obtain ⟨own, others⟩ := List.forall_mem_append.mp named
    exact List.forall_mem_cons.mpr ⟨binding.script_neutral abides own accepts.left,
      Binding.scripts_neutral abides bindings others accepts.right⟩

theorem ElementInit.script_neutral (abides : dialect.AbidesBy rules) : (init : ElementInit) →
    rules.AcceptsAll init.nodes → Neutral rules (init.script dialect)
  | .mk arguments, accepts =>
    Render.elementInit_neutral (Expr.parts_neutral abides arguments accepts)

theorem ElementInit.scripts_neutral (abides : dialect.AbidesBy rules) :
    (inits : List ElementInit) → rules.AcceptsAll (ElementInit.listNodes inits) →
    ∀ script ∈ ElementInit.scripts dialect inits, Neutral rules script
  | [], _ => nofun
  | init :: inits, accepts =>
    List.forall_mem_cons.mpr ⟨init.script_neutral abides accepts.left,
      ElementInit.scripts_neutral abides inits accepts.right⟩

theorem SwitchCase.script_neutral (abides : dialect.AbidesBy rules) : (first : SwitchCase) →
    rules.AcceptsAll first.nodes → Neutral rules (first.script dialect)
  | .mk testValues body, accepts =>
    Render.switchCase_neutral (Expr.parts_neutral abides testValues accepts.left)
      (body.script_neutral abides accepts.right)

theorem SwitchCase.scripts_neutral (abides : dialect.AbidesBy rules) :
    (cases : List SwitchCase) → rules.AcceptsAll (SwitchCase.listNodes cases) →
    ∀ script ∈ SwitchCase.scripts dialect cases, Neutral rules script
  | [], _ => nofun
  | first :: cases, accepts =>
    List.forall_mem_cons.mpr ⟨first.script_neutral abides accepts.left,
      SwitchCase.scripts_neutral abides cases accepts.right⟩

theorem CatchBlock.script_neutral (abides : dialect.AbidesBy rules) : (handler : CatchBlock) →
    (∀ text ∈ handler.texts, rules.Accepts text) → rules.AcceptsAll handler.nodes →
    Neutral rules (handler.script dialect)
  | .mk _ exception filter body, named, accepts => by
    obtain ⟨typed, named⟩ := List.forall_mem_cons.mp named
    refine Render.catchBlock_neutral abides typed ?_
      (Expr.optionalPart_neutral abides filter accepts.left)
      (body.script_neutral abides accepts.right)
    intro parameter caught
    exact named _ (Option.mem_toList.mpr (Option.mem_map_of_mem _ caught))

theorem CatchBlock.scripts_neutral (abides : dialect.AbidesBy rules) :
    (handlers : List CatchBlock) →
    (∀ text ∈ handlers.flatMap CatchBlock.texts, rules.Accepts text) →
    rules.AcceptsAll (CatchBlock.listNodes handlers) →
    ∀ script ∈ CatchBlock.scripts dialect handlers, Neutral rules script
  | [], _, _ => nofun
  | handler :: handlers, named, accepts => by
    obtain ⟨own, others⟩ := List.forall_mem_append.mp named
    exact List.forall_mem_cons.mpr ⟨handler.script_neutral abides own accepts.left,
      CatchBlock.scripts_neutral abides handlers others accepts.right⟩

end

end AqlPipeline
