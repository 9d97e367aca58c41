import AqlPipeline.Proofs.Expr.Nodes
import AqlPipeline.Proofs.Render.Places
import AqlPipeline.Proofs.Render.PlacesStatements
import AqlPipeline.Render.Expr

/-!
# Expressions visit in order

By induction on the expression: each form visits its parts at places of their own, and a script
leaves out rows only if a call in the expression asks for it.
-/

namespace AqlPipeline

open Script

/-- Whether an expression is a call that leaves out rows. -/
def Expr.isSkip : Expr → Bool
  | .call _ method _ _ => Stage.ofName? method.name == some .skip
  | _ => false

/-- Whether rows may be left out if one of some expressions does it. -/
def Expr.MaySkip (skips : Prop) (nodes : List Expr) : Prop :=
  ∀ node ∈ nodes, node.isSkip → skips

namespace Expr.MaySkip

variable {skips : Prop} {node : Expr} {nodes first second : List Expr}

theorem left (allowed : MaySkip skips (first ++ second)) : MaySkip skips first :=
  fun node member => allowed node (List.mem_append_left second member)

theorem right (allowed : MaySkip skips (first ++ second)) : MaySkip skips second :=
  fun node member => allowed node (List.mem_append_right first member)

theorem tail (allowed : MaySkip skips (node :: nodes)) : MaySkip skips nodes :=
  fun other member => allowed other (List.mem_cons_of_mem node member)

theorem call {target : Option Expr} {method : Method} {arguments : List Expr} {type : TypeRef}
    (allowed : MaySkip skips (.call target method arguments type :: nodes)) :
    Stage.ofName? method.name = some .skip → skips :=
  fun named => allowed _ List.mem_cons_self (by simp [isSkip, named])

end Expr.MaySkip

variable {skips : Prop} {dialect : Dialect}

mutual

/-- An expression visits in order wherever it stands. -/
theorem Expr.script_orderly : (expr : Expr) → Expr.MaySkip skips expr.nodes →
    (placement : Placement) → Orderly skips (expr.script dialect placement)
  | .binary operator left right _, allowed, _ =>
    Render.binary_orderly operator (by decide) (left.script_orderly allowed.tail.left)
      (right.script_orderly allowed.tail.right)
  | .unary operator none _, _, _ => .alone (Render.bare_within operator)
  | .unary operator (some operand) type, allowed, _ =>
    Render.unary_orderly operator type (by decide) (operand.script_orderly allowed.tail)
  | .lambda parameters body _, allowed, _ =>
    Render.lambda_orderly parameters (body.script_orderly allowed.tail)
  | .parameter _, _, _ => .alone (.write _)
  | .constant _ _, _, _ => .alone (.write _)
  | .captured name value _, _, _ => .alone (.bindNamed name value)
  | .memberAccess owner member type, allowed, _ =>
    Render.memberAccess_orderly member type (Expr.optionalPart_orderly owner allowed.tail)
  | .newObject new, allowed, _ => new.script_orderly allowed.tail
  | .call target _ arguments _, allowed, _ =>
    Render.call_orderly (Expr.optionalPart_orderly target allowed.tail.left)
      (Expr.parts_orderly arguments allowed.tail.right) allowed.call
      (Expr.itemScriptsAt_orderly arguments allowed.tail.right)
  | .memberInit new bindings, allowed, _ =>
    Render.memberInit_orderly new (new.script_orderly allowed.tail.left)
      (Binding.scripts_orderly bindings allowed.tail.right)
  | .listInit _ initializers, allowed, _ =>
    Render.of_items (by decide) (.between _ _ (.inLine (.series _ _)))
      (ElementInit.scripts_orderly initializers allowed.tail.right)
  | .newArray kind items type, allowed, _ =>
    Render.newArray_orderly kind type (Expr.parts_orderly items allowed.tail)
  | .conditional test ifTrue ifFalse type, allowed, _ =>
    Render.conditional_orderly type (test.script_orderly allowed.tail.left)
      (ifTrue.script_orderly allowed.tail.right.left)
      (ifFalse.script_orderly allowed.tail.right.right)
  | .defaultValue _, _, _ => .alone (.write _)
  | .typeTest kind subject operand _, allowed, _ =>
    Render.typeTest_orderly kind operand (subject.script_orderly allowed.tail)
  | .invocation function arguments _, allowed, _ =>
    Render.invocation_orderly (function.script_orderly allowed.tail.left)
      (Expr.parts_orderly arguments allowed.tail.right)
  | .index object arguments _, allowed, _ =>
    Render.element_orderly (object.script_orderly allowed.tail.left)
      (Expr.parts_orderly arguments allowed.tail.right)
  | .block locals expressions _, allowed, placement =>
    Render.block_orderly locals placement (Expr.parts_orderly expressions allowed.tail)
  | .switch subject cases defaultBody _, allowed, _ =>
    Render.switch_orderly (subject.script_orderly allowed.tail.left)
      (SwitchCase.scripts_orderly cases allowed.tail.right.left)
      (Expr.optionalPart_orderly defaultBody allowed.tail.right.right)
  | .tryCatch body handlers fault finalizer _, allowed, _ =>
    Render.tryCatch_orderly (body.script_orderly allowed.tail.left)
      (CatchBlock.scripts_orderly handlers allowed.tail.right.left)
      (Expr.optionalPart_orderly fault allowed.tail.right.right.left)
      (Expr.optionalPart_orderly finalizer allowed.tail.right.right.right)
  | .label target _, _, _ => Render.label_orderly target
  | .goto kind target value _, allowed, _ =>
    Render.goto_orderly kind target (Expr.optionalPart_orderly value allowed.tail)
  | .loop body _, allowed, _ => Render.loop_orderly (body.script_orderly allowed.tail)
  | .variablesGroup locals _, _, _ => Render.variablesGroup_orderly locals
  | .debugMarker marker _, _, _ => Render.debugMarker_orderly marker
  | .late operation arguments type, allowed, _ =>
    Render.late_orderly operation type (Expr.parts_orderly arguments allowed.tail)

theorem Expr.itemScripts_orderly : (expr : Expr) → Expr.MaySkip skips expr.nodes →
    ∀ script ∈ expr.itemScripts dialect, Orderly skips script
  | .newArray .init items _, allowed => Expr.scripts_orderly items allowed.tail
  | .newArray .bounds _ _, _ => nofun
  | .binary .., _ | .unary .., _ | .lambda .., _ | .parameter _, _ | .constant .., _
  | .captured .., _ | .memberAccess .., _ | .newObject _, _ | .call .., _ | .memberInit .., _
  | .listInit .., _ | .conditional .., _ | .defaultValue _, _ | .typeTest .., _
  | .invocation .., _ | .index .., _ | .block .., _ | .switch .., _ | .tryCatch .., _
  | .label .., _ | .goto .., _ | .loop .., _ | .variablesGroup .., _ | .debugMarker .., _
  | .late .., _ => nofun

theorem Expr.itemScriptsAt_orderly : (exprs : List Expr) →
    Expr.MaySkip skips (Expr.listNodes exprs) → (index : Nat) →
    ∀ script ∈ Expr.itemScriptsAt dialect exprs index, Orderly skips script
  | [], _, _ => nofun
  | expr :: _, allowed, 0 => expr.itemScripts_orderly allowed.left
  | _ :: exprs, allowed, index + 1 => Expr.itemScriptsAt_orderly exprs allowed.right index

theorem Expr.scripts_orderly : (exprs : List Expr) → Expr.MaySkip skips (Expr.listNodes exprs) →
    ∀ script ∈ Expr.scripts dialect exprs, Orderly skips script
  | [], _ => nofun
  | expr :: exprs, allowed =>
    List.forall_mem_cons.mpr ⟨expr.script_orderly allowed.left {},
      Expr.scripts_orderly exprs allowed.right⟩

theorem Expr.parts_orderly : (exprs : List Expr) → Expr.MaySkip skips (Expr.listNodes exprs) →
    ∀ part ∈ Expr.parts dialect exprs, part.IsOrderly skips
  | [], _ => nofun
  | expr :: exprs, allowed =>
    List.forall_mem_cons.mpr ⟨expr.script_orderly allowed.left,
      Expr.parts_orderly exprs allowed.right⟩

theorem Expr.optionalPart_orderly : (expr : Option Expr) →
    Expr.MaySkip skips (Expr.optionNodes expr) →
    ∀ part ∈ Expr.optionalPart dialect expr, part.IsOrderly skips
  | none, _ => nofun
  | some expr, allowed => fun _ own => Option.mem_some.mp own ▸ expr.script_orderly allowed

theorem NewObject.script_orderly : (new : NewObject) → Expr.MaySkip skips new.nodes →
    Orderly skips (new.script dialect)
  | .mk arguments members type, allowed =>
    Render.of_arguments (Render.newObject_within members type (.series _ _))
      (Expr.parts_orderly arguments allowed)

theorem Binding.script_orderly : (binding : Binding) → Expr.MaySkip skips binding.nodes →
    Orderly skips (binding.script dialect)
  | .assignment _ value, allowed =>
    .at_one (.single "Expression" (value.script dialect {})) (by decide : Key.Ordered [.single _])
      ((Within.write _).append (.enter (.head ⟨rfl, rfl⟩)))
      (.mem_single (value.script_orderly allowed {}))
  | .nested _ bindings, allowed =>
    Render.of_items (by decide) ((Within.write _).append (Render.braced_within (.series _ _)))
      (Binding.scripts_orderly bindings allowed)
  | .list _ initializers, allowed =>
    Render.of_items (by decide) ((Within.write _).append (Render.braced_within (.series _ _)))
      (ElementInit.scripts_orderly initializers allowed)

theorem Binding.scripts_orderly : (bindings : List Binding) →
    Expr.MaySkip skips (Binding.listNodes bindings) →
    ∀ script ∈ Binding.scripts dialect bindings, Orderly skips script
  | [], _ => nofun
  | binding :: bindings, allowed =>
    List.forall_mem_cons.mpr ⟨binding.script_orderly allowed.left,
      Binding.scripts_orderly bindings allowed.right⟩

theorem ElementInit.script_orderly : (init : ElementInit) → Expr.MaySkip skips init.nodes →
    Orderly skips (init.script dialect)
  | .mk arguments, allowed =>
    Render.of_arguments (Render.elementInit_within (.series _ _))
      (Expr.parts_orderly arguments allowed)

theorem ElementInit.scripts_orderly : (inits : List ElementInit) →
    Expr.MaySkip skips (ElementInit.listNodes inits) →
    ∀ script ∈ ElementInit.scripts dialect inits, Orderly skips script
  | [], _ => nofun
  | init :: inits, allowed =>
    List.forall_mem_cons.mpr ⟨init.script_orderly allowed.left,
      ElementInit.scripts_orderly inits allowed.right⟩

theorem SwitchCase.script_orderly : (first : SwitchCase) → Expr.MaySkip skips first.nodes →
    Orderly skips (first.script dialect)
  | .mk testValues body, allowed =>
    Render.switchCase_orderly (Expr.parts_orderly testValues allowed.left)
      (body.script_orderly allowed.right)

theorem SwitchCase.scripts_orderly : (cases : List SwitchCase) →
    Expr.MaySkip skips (SwitchCase.listNodes cases) →
    ∀ script ∈ SwitchCase.scripts dialect cases, Orderly skips script
  | [], _ => nofun
  | first :: cases, allowed =>
    List.forall_mem_cons.mpr ⟨first.script_orderly allowed.left,
      SwitchCase.scripts_orderly cases allowed.right⟩

theorem CatchBlock.script_orderly : (handler : CatchBlock) → Expr.MaySkip skips handler.nodes →
    Orderly skips (handler.script dialect)
  | .mk test exception filter body, allowed =>
    Render.catchBlock_orderly test exception (Expr.optionalPart_orderly filter allowed.left)
      (body.script_orderly allowed.right)

theorem CatchBlock.scripts_orderly : (handlers : List CatchBlock) →
    Expr.MaySkip skips (CatchBlock.listNodes handlers) →
    ∀ script ∈ CatchBlock.scripts dialect handlers, Orderly skips script
  | [], _ => nofun
  | handler :: handlers, allowed =>
    List.forall_mem_cons.mpr ⟨handler.script_orderly allowed.left,
      CatchBlock.scripts_orderly handlers allowed.right⟩

end

end AqlPipeline
