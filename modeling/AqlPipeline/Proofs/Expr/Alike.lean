import AqlPipeline.Proofs.Expr.Nodes
import AqlPipeline.Proofs.Render.Calls
import AqlPipeline.Proofs.Render.Statements

/-!
# Expressions with a hidden change are written alike

By induction on the expression: each form is written alike, as its parts are.
-/

namespace AqlPipeline

variable {like : Likeness} {dialect : Dialect} (change : HiddenChange like dialect)

/-- Whether all members and captured variables among some expressions have names that values may be
bound to. -/
def Likeness.Binds (like : Likeness) (nodes : List Expr) : Prop :=
  ∀ node ∈ nodes, ∀ name, node.memberName? = some name → like.names name

namespace Likeness.Binds

theorem left {first second : List Expr} (binds : like.Binds (first ++ second)) :
    like.Binds first :=
  fun node member => binds node (List.mem_append_left second member)

theorem right {first second : List Expr} (binds : like.Binds (first ++ second)) :
    like.Binds second :=
  fun node member => binds node (List.mem_append_right first member)

theorem head {node : Expr} {nodes : List Expr} (binds : like.Binds (node :: nodes)) {name : String}
    (named : node.memberName? = some name) : like.names name :=
  binds node List.mem_cons_self name named

theorem tail {node : Expr} {nodes : List Expr} (binds : like.Binds (node :: nodes)) :
    like.Binds nodes :=
  fun other member => binds other (List.mem_cons_of_mem node member)

end Likeness.Binds

/-- An operation bound while the query runs is written alike, with the change also made to the right
operand of an operator. -/
theorem Render.late_onRight_alike (operation : LateOperation) (arguments : List Expr)
    (type : TypeRef)
    (alike : List.Forall₂ (Part.Alike change) (Expr.parts dialect arguments)
      (Expr.parts dialect (Expr.listOnRight change.apply arguments))) :
    Script.Alike like (Render.late dialect operation (Expr.parts dialect arguments) type)
      (Render.late dialect operation (Expr.parts dialect
        (operation.onRight change.apply (Expr.listOnRight change.apply arguments))) type) := by
  cases operation with
  | binaryOp operator =>
      match arguments, alike with
      | [], alike => exact Render.miscounted_alike _ _ alike
      | [_], alike => exact Render.miscounted_alike _ _ alike
      | [left, right], .cons lefts (.cons rights .nil) =>
          exact Render.binary_alike operator _ _ lefts rights
      | _ :: _ :: _ :: _, alike => exact Render.miscounted_alike _ _ alike
  | _ => exact Render.late_alike (by simp) type alike

mutual

/-- An expression is written alike before and after the change. -/
theorem Expr.script_alike : (expr : Expr) → like.Binds expr.nodes → (placement : Placement) →
    Script.Alike like (expr.script dialect placement)
      ((expr.onRight change.apply).script dialect placement)
  | .binary operator left right _, binds, _ =>
    Render.binary_alike operator _ _ ⟨rfl, left.script_alike binds.tail.left⟩
      ⟨rfl, right.script_alike binds.tail.right⟩
  | .unary operator none _, _, _ => Render.bare_alike operator
  | .unary operator (some operand) type, binds, _ =>
    Render.unary_alike operator _ type ⟨rfl, operand.script_alike binds.tail⟩
  | .lambda parameters body _, binds, _ =>
    Render.lambda_alike parameters ⟨rfl, body.script_alike binds.tail⟩
  | .parameter _, _, _ => .write _
  | .constant _ _, _, _ => .write _
  | .captured _ value _, binds, _ => .bindNamed (binds.head rfl) value
  | .memberAccess owner _ type, binds, _ =>
    Render.memberAccess_alike (binds.head rfl) type (Expr.optionalPart_alike owner binds.tail)
  | .newObject new, binds, _ => new.script_alike binds.tail
  | .call target method arguments _, binds, _ =>
    Render.call_alike method (Expr.optionalPart_alike target binds.tail.left)
      (Expr.parts_alike arguments binds.tail.right)
      (Expr.itemScriptsAt_alike arguments binds.tail.right)
  | .memberInit new bindings, binds, _ =>
    Render.memberInit_alike new (new.script_alike binds.tail.left)
      (Binding.scripts_alike bindings binds.tail.right)
  | .listInit _ initializers, binds, _ =>
    Render.listInit_alike (ElementInit.scripts_alike initializers binds.tail.right)
  | .newArray kind items type, binds, _ =>
    Render.newArray_alike kind type (Expr.parts_alike items binds.tail)
  | .conditional test ifTrue ifFalse type, binds, _ =>
    Render.conditional_alike type ⟨rfl, test.script_alike binds.tail.left⟩
      ⟨rfl, ifTrue.script_alike binds.tail.right.left⟩
      ⟨rfl, ifFalse.script_alike binds.tail.right.right⟩
  | .defaultValue _, _, _ => .write _
  | .typeTest kind subject operand _, binds, _ =>
    Render.typeTest_alike kind operand ⟨rfl, subject.script_alike binds.tail⟩
  | .invocation function arguments _, binds, _ =>
    Render.invocation_alike ⟨rfl, function.script_alike binds.tail.left⟩
      (Expr.parts_alike arguments binds.tail.right)
  | .index object arguments _, binds, _ =>
    Render.element_alike _ ⟨rfl, object.script_alike binds.tail.left⟩
      (Part.Alike.keys 0 (Expr.parts_alike arguments binds.tail.right))
  | .block locals expressions _, binds, placement =>
    Render.block_alike locals placement (Expr.parts_alike expressions binds.tail)
  | .switch subject cases defaultBody _, binds, _ =>
    Render.switch_alike ⟨rfl, subject.script_alike binds.tail.left⟩
      (SwitchCase.scripts_alike cases binds.tail.right.left)
      (Expr.optionalPart_alike defaultBody binds.tail.right.right)
  | .tryCatch body handlers fault finalizer _, binds, _ =>
    Render.tryCatch_alike ⟨rfl, body.script_alike binds.tail.left⟩
      (CatchBlock.scripts_alike handlers binds.tail.right.left)
      (Expr.optionalPart_alike fault binds.tail.right.right.left)
      (Expr.optionalPart_alike finalizer binds.tail.right.right.right)
  | .label target _, _, _ => Render.label_alike target
  | .goto kind target value _, binds, _ =>
    Render.goto_alike kind target (Expr.optionalPart_alike value binds.tail)
  | .loop body _, binds, _ => Render.loop_alike ⟨rfl, body.script_alike binds.tail⟩
  | .variablesGroup locals _, _, _ => Render.variablesGroup_alike locals
  | .debugMarker marker _, _, _ => Render.debugMarker_alike marker
  | .late operation arguments type, binds, _ =>
    Render.late_onRight_alike change operation arguments type
      (Expr.parts_alike arguments binds.tail)

theorem Expr.itemScripts_alike : (expr : Expr) → like.Binds expr.nodes →
    List.Forall₂ (Script.Alike like) (expr.itemScripts dialect)
      ((expr.onRight change.apply).itemScripts dialect)
  | .newArray .init items _, binds => Expr.scripts_alike items binds.tail
  | .newArray .bounds _ _, _ => .nil
  | .binary .., _ | .unary .., _ | .lambda .., _ | .parameter _, _ | .constant .., _
  | .captured .., _ | .memberAccess .., _ | .newObject _, _ | .call .., _ | .memberInit .., _
  | .listInit .., _ | .conditional .., _ | .defaultValue _, _ | .typeTest .., _
  | .invocation .., _ | .index .., _ | .block .., _ | .switch .., _ | .tryCatch .., _
  | .label .., _ | .goto .., _ | .loop .., _ | .variablesGroup .., _ | .debugMarker .., _
  | .late .., _ => .nil

theorem Expr.itemScriptsAt_alike : (exprs : List Expr) → like.Binds (Expr.listNodes exprs) →
    (index : Nat) → List.Forall₂ (Script.Alike like) (Expr.itemScriptsAt dialect exprs index)
      (Expr.itemScriptsAt dialect (Expr.listOnRight change.apply exprs) index)
  | [], _, _ => .nil
  | expr :: _, binds, 0 => expr.itemScripts_alike binds.left
  | _ :: exprs, binds, index + 1 => Expr.itemScriptsAt_alike exprs binds.right index

theorem Expr.scripts_alike : (exprs : List Expr) → like.Binds (Expr.listNodes exprs) →
    List.Forall₂ (Script.Alike like) (Expr.scripts dialect exprs)
      (Expr.scripts dialect (Expr.listOnRight change.apply exprs))
  | [], _ => .nil
  | expr :: exprs, binds =>
    .cons (expr.script_alike binds.left {}) (Expr.scripts_alike exprs binds.right)

theorem Expr.parts_alike : (exprs : List Expr) → like.Binds (Expr.listNodes exprs) →
    List.Forall₂ (Part.Alike change) (Expr.parts dialect exprs)
      (Expr.parts dialect (Expr.listOnRight change.apply exprs))
  | [], _ => .nil
  | expr :: exprs, binds =>
    .cons ⟨rfl, expr.script_alike binds.left⟩ (Expr.parts_alike exprs binds.right)

theorem Expr.optionalPart_alike : (expr : Option Expr) → like.Binds (Expr.optionNodes expr) →
    Option.Rel (Part.Alike change) (Expr.optionalPart dialect expr)
      (Expr.optionalPart dialect (Expr.optionOnRight change.apply expr))
  | none, _ => .none
  | some expr, binds => .some ⟨rfl, expr.script_alike binds⟩

theorem NewObject.script_alike : (new : NewObject) → like.Binds new.nodes →
    Script.Alike like (new.script dialect) ((new.onRight change.apply).script dialect)
  | .mk arguments members type, binds =>
    Render.newObject_alike members type (Expr.parts_alike arguments binds)

theorem Binding.script_alike : (binding : Binding) → like.Binds binding.nodes →
    Script.Alike like (binding.script dialect) ((binding.onRight change.apply).script dialect)
  | .assignment member value, binds =>
    Render.assigned_alike member (.enter _ (value.script_alike binds {}))
  | .nested member bindings, binds =>
    Render.assigned_alike member (Render.braced_alike _ (Binding.scripts_alike bindings binds))
  | .list member initializers, binds =>
    Render.assigned_alike member
      (Render.braced_alike _ (ElementInit.scripts_alike initializers binds))

theorem Binding.scripts_alike : (bindings : List Binding) →
    like.Binds (Binding.listNodes bindings) →
    List.Forall₂ (Script.Alike like) (Binding.scripts dialect bindings)
      (Binding.scripts dialect (Binding.listOnRight change.apply bindings))
  | [], _ => .nil
  | binding :: bindings, binds =>
    .cons (binding.script_alike binds.left) (Binding.scripts_alike bindings binds.right)

theorem ElementInit.script_alike : (init : ElementInit) → like.Binds init.nodes →
    Script.Alike like (init.script dialect) ((init.onRight change.apply).script dialect)
  | .mk arguments, binds => Render.elementInit_alike (Expr.parts_alike arguments binds)

theorem ElementInit.scripts_alike : (inits : List ElementInit) →
    like.Binds (ElementInit.listNodes inits) →
    List.Forall₂ (Script.Alike like) (ElementInit.scripts dialect inits)
      (ElementInit.scripts dialect (ElementInit.listOnRight change.apply inits))
  | [], _ => .nil
  | init :: inits, binds =>
    .cons (init.script_alike binds.left) (ElementInit.scripts_alike inits binds.right)

theorem SwitchCase.script_alike : (first : SwitchCase) → like.Binds first.nodes →
    Script.Alike like (first.script dialect) ((first.onRight change.apply).script dialect)
  | .mk testValues body, binds =>
    Render.switchCase_alike (Expr.parts_alike testValues binds.left)
      ⟨rfl, body.script_alike binds.right⟩

theorem SwitchCase.scripts_alike : (cases : List SwitchCase) →
    like.Binds (SwitchCase.listNodes cases) →
    List.Forall₂ (Script.Alike like) (SwitchCase.scripts dialect cases)
      (SwitchCase.scripts dialect (SwitchCase.listOnRight change.apply cases))
  | [], _ => .nil
  | first :: cases, binds =>
    .cons (first.script_alike binds.left) (SwitchCase.scripts_alike cases binds.right)

theorem CatchBlock.script_alike : (handler : CatchBlock) → like.Binds handler.nodes →
    Script.Alike like (handler.script dialect) ((handler.onRight change.apply).script dialect)
  | .mk test exception filter body, binds =>
    Render.catchBlock_alike test exception (Expr.optionalPart_alike filter binds.left)
      ⟨rfl, body.script_alike binds.right⟩

theorem CatchBlock.scripts_alike : (handlers : List CatchBlock) →
    like.Binds (CatchBlock.listNodes handlers) →
    List.Forall₂ (Script.Alike like) (CatchBlock.scripts dialect handlers)
      (CatchBlock.scripts dialect (CatchBlock.listOnRight change.apply handlers))
  | [], _ => .nil
  | handler :: handlers, binds =>
    .cons (handler.script_alike binds.left) (CatchBlock.scripts_alike handlers binds.right)

end

end AqlPipeline
