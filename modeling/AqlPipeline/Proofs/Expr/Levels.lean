import AqlPipeline.Proofs.Render.LevelsStatements
import AqlPipeline.Render.Expr

/-!
# Expressions come back to their level

By induction on the expression: each form does, as its parts do.  The same goes for the things that
hang off an expression, but for the cases of a switch, which end one level deeper.
-/

namespace AqlPipeline

open Script

variable {dialect : Dialect}

mutual

/-- An expression comes back to its level wherever it stands. -/
theorem Expr.script_level : (expr : Expr) → (placement : Placement) →
    Level 0 (expr.script dialect placement)
  | .binary operator left right _, _ =>
    Render.binary_level operator _ _ left.script_level right.script_level
  | .unary operator none _, _ => Render.bare_level operator
  | .unary operator (some operand) type, _ =>
    Render.unary_level operator _ type operand.script_level
  | .lambda parameters body _, _ => Render.lambda_level parameters body.script_level
  | .parameter _, _ => .write _
  | .constant _ _, _ => .write _
  | .captured name value _, _ => .bindNamed name value
  | .memberAccess owner member type, _ =>
    Render.memberAccess_level (Expr.optionalPart_level owner) member type
  | .newObject new, _ => new.script_level
  | .call target method arguments _, _ =>
    Render.call_level (Expr.optionalPart_level target) method (Expr.parts_level arguments)
      (Expr.itemScriptsAt_level arguments)
  | .memberInit new bindings, _ =>
    Render.memberInit_level new new.script_level (Binding.scripts_level bindings)
  | .listInit _ initializers, _ =>
    Render.listInit_level (ElementInit.scripts_level initializers)
  | .newArray kind items type, _ => Render.newArray_level kind type (Expr.parts_level items)
  | .conditional test ifTrue ifFalse type, _ =>
    Render.conditional_level type test.script_level ifTrue.script_level ifFalse.script_level
  | .defaultValue _, _ => .write _
  | .typeTest kind subject operand _, _ =>
    Render.typeTest_level kind operand subject.script_level
  | .invocation function arguments _, _ =>
    Render.invocation_level function.script_level (Expr.parts_level arguments)
  | .index object arguments _, _ =>
    Render.element_level _ object.script_level (Part.IsLevel.keys 0 (Expr.parts_level arguments))
  | .block locals expressions _, placement =>
    Render.block_level locals (Expr.parts_level expressions) placement
  | .switch subject cases defaultBody _, _ =>
    Render.switch_level subject.script_level (SwitchCase.scripts_climb cases)
      (Expr.optionalPart_level defaultBody)
  | .tryCatch body handlers fault finalizer _, _ =>
    Render.tryCatch_level body.script_level (CatchBlock.scripts_level handlers)
      (Expr.optionalPart_level fault) (Expr.optionalPart_level finalizer)
  | .label target _, _ => Render.label_level target
  | .goto kind target value _, _ =>
    Render.goto_level kind target (Expr.optionalPart_level value)
  | .loop body _, _ => Render.loop_level body.script_level
  | .variablesGroup locals _, _ => Render.variablesGroup_level locals
  | .debugMarker marker _, _ => Render.debugMarker_level marker
  | .late operation arguments type, _ =>
    Render.late_level operation type (Expr.parts_level arguments)

theorem Expr.itemScripts_level : (expr : Expr) →
    ∀ script ∈ expr.itemScripts dialect, Level 0 script
  | .newArray .init items _ => Expr.scripts_level items
  | .newArray .bounds _ _ => nofun
  | .binary .. | .unary .. | .lambda .. | .parameter _ | .constant .. | .captured ..
  | .memberAccess .. | .newObject _ | .call .. | .memberInit .. | .listInit .. | .conditional ..
  | .defaultValue _ | .typeTest .. | .invocation .. | .index .. | .block .. | .switch ..
  | .tryCatch .. | .label .. | .goto .. | .loop .. | .variablesGroup .. | .debugMarker ..
  | .late .. => nofun

theorem Expr.itemScriptsAt_level : (exprs : List Expr) → (index : Nat) →
    ∀ script ∈ Expr.itemScriptsAt dialect exprs index, Level 0 script
  | [], _ => nofun
  | expr :: _, 0 => expr.itemScripts_level
  | _ :: exprs, index + 1 => Expr.itemScriptsAt_level exprs index

theorem Expr.scripts_level : (exprs : List Expr) →
    ∀ script ∈ Expr.scripts dialect exprs, Level 0 script
  | [] => nofun
  | expr :: exprs => List.forall_mem_cons.mpr ⟨expr.script_level {}, Expr.scripts_level exprs⟩

theorem Expr.parts_level : (exprs : List Expr) → ∀ part ∈ Expr.parts dialect exprs, part.IsLevel
  | [] => nofun
  | expr :: exprs => List.forall_mem_cons.mpr ⟨expr.script_level, Expr.parts_level exprs⟩

theorem Expr.optionalPart_level : (expr : Option Expr) →
    ∀ part ∈ Expr.optionalPart dialect expr, part.IsLevel
  | none => nofun
  | some expr => fun _ own => Option.mem_some.mp own ▸ expr.script_level

theorem NewObject.script_level : (new : NewObject) → Level 0 (new.script dialect)
  | .mk arguments members type => Render.newObject_level (Expr.parts_level arguments) members type

theorem Binding.script_level : (binding : Binding) → Level 0 (binding.script dialect)
  | .assignment member value => Render.assigned_level member ((value.script_level {}).enter _)
  | .nested member bindings =>
    Render.assigned_level member (Render.braced_level _ (Binding.scripts_level bindings))
  | .list member initializers =>
    Render.assigned_level member (Render.braced_level _ (ElementInit.scripts_level initializers))

theorem Binding.scripts_level : (bindings : List Binding) →
    ∀ script ∈ Binding.scripts dialect bindings, Level 0 script
  | [] => nofun
  | binding :: bindings =>
    List.forall_mem_cons.mpr ⟨binding.script_level, Binding.scripts_level bindings⟩

theorem ElementInit.script_level : (init : ElementInit) → Level 0 (init.script dialect)
  | .mk arguments => Render.elementInit_level (Expr.parts_level arguments)

theorem ElementInit.scripts_level : (inits : List ElementInit) →
    ∀ script ∈ ElementInit.scripts dialect inits, Level 0 script
  | [] => nofun
  | init :: inits =>
    List.forall_mem_cons.mpr ⟨init.script_level, ElementInit.scripts_level inits⟩

/-- A case of a switch ends one level deeper. -/
theorem SwitchCase.script_climbs : (first : SwitchCase) → Climbs 1 0 (first.script dialect) 1
  | .mk testValues body =>
    Render.switchCase_climbs (Expr.parts_level testValues) body.script_level

theorem SwitchCase.scripts_climb : (cases : List SwitchCase) →
    ∀ script ∈ SwitchCase.scripts dialect cases, Climbs 1 0 script 1
  | [] => nofun
  | first :: cases =>
    List.forall_mem_cons.mpr ⟨first.script_climbs, SwitchCase.scripts_climb cases⟩

theorem CatchBlock.script_level : (handler : CatchBlock) → Level 0 (handler.script dialect)
  | .mk test exception filter body =>
    Render.catchBlock_level test exception (Expr.optionalPart_level filter) body.script_level

theorem CatchBlock.scripts_level : (handlers : List CatchBlock) →
    ∀ script ∈ CatchBlock.scripts dialect handlers, Level 0 script
  | [] => nofun
  | handler :: handlers =>
    List.forall_mem_cons.mpr ⟨handler.script_level, CatchBlock.scripts_level handlers⟩

end

/-- What declares an expression comes back to its level. -/
theorem Expr.declaration_level (expr : Expr) (placement : Placement) :
    Level 0 (expr.declaration dialect placement) := by
  unfold declaration
  split
  · exact Render.declaration_level _
  · exact script_level _ placement

end AqlPipeline
