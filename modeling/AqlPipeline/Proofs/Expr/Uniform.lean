import AqlPipeline.Proofs.Render.Uniform
import AqlPipeline.Proofs.Render.UniformStatements
import AqlPipeline.Render.Expr

/-!
# Expressions are written uniformly in the name of a parameter

By induction on the expression: each form is written uniformly, as its parts are.  The name itself
is written at the references and nowhere else.
-/

namespace AqlPipeline

variable (old : String)

/-- A reference by the old name is written by the new one, any other reference as it is. -/
theorem Parameter.reference_uniform (reference : Parameter) :
    Script.Uniform fun name => .write (if reference.name = old then name else reference.name) := by
  by_cases named : reference.name = old
  · simp only [if_pos named]
    exact .name .done
  · simp only [if_neg named]
    exact .write _

mutual

/-- Scripts of an expression, for each new name of a parameter. -/
theorem Expr.script_uniform : (expr : Expr) → (placement : Placement) →
    Script.Uniform fun name => (expr.renamed old name).script .aql placement
  | .binary operator left right _, _ =>
    Render.binary_uniform operator _ _ ⟨⟨left, fun _ => rfl⟩, left.script_uniform⟩
      ⟨⟨right, fun _ => rfl⟩, right.script_uniform⟩
  | .unary _ none _, _ => .const _
  | .unary operator (some operand) type, _ =>
    Render.unary_uniform .aql operator _ type ⟨⟨operand, fun _ => rfl⟩, operand.script_uniform⟩
  | .lambda _ body _, _ =>
    Render.lambda_uniform (.const _) ⟨⟨body, fun _ => rfl⟩, body.script_uniform⟩
  | .parameter reference, _ => Parameter.reference_uniform old reference
  | .constant _ _, _ => .const _
  | .captured _ _ _, _ => .const _
  | .memberAccess owner member type, _ =>
    Render.memberAccess_uniform member type (Expr.optionalPart_uniform owner)
  | .newObject new, _ => new.script_uniform
  | .call target method arguments _, _ =>
    Render.call_uniform .aql method (Expr.optionalPart_uniform target)
      (Expr.parts_uniform arguments) (Expr.itemScriptsAt_uniform arguments)
  | .memberInit (.mk arguments members type) bindings, _ =>
    Render.memberInit_uniform (fun _ => rfl) (fun _ => by cases arguments <;> rfl)
      (Render.newObject_uniform members type (Expr.parts_uniform arguments))
      (Binding.scripts_uniform bindings)
  | .listInit _ initializers, _ =>
    ((Script.Uniform.write _).append
      (.inLine _ _ (ElementInit.scripts_uniform initializers))).append (.write _)
  | .newArray kind items type, _ =>
    Render.newArray_uniform .aql kind type (Expr.parts_uniform items)
  | .conditional test ifTrue ifFalse type, _ =>
    Render.conditional_uniform type ⟨⟨test, fun _ => rfl⟩, test.script_uniform⟩
      ⟨⟨ifTrue, fun _ => rfl⟩, ifTrue.script_uniform⟩
      ⟨⟨ifFalse, fun _ => rfl⟩, ifFalse.script_uniform⟩
  | .defaultValue _, _ => .const _
  | .typeTest kind subject operand _, _ =>
    Render.typeTest_uniform .aql kind operand ⟨⟨subject, fun _ => rfl⟩, subject.script_uniform⟩
  | .invocation function arguments _, _ =>
    Render.invocation_uniform ⟨⟨function, fun _ => rfl⟩, function.script_uniform⟩
      (Expr.parts_uniform arguments)
  | .index object arguments _, _ =>
    Render.element_uniform _ ⟨⟨object, fun _ => rfl⟩, object.script_uniform⟩
      (Render.keys_uniform 0 (Expr.parts_uniform arguments))
  | .block locals expressions _, placement =>
    Render.block_uniform locals placement (Expr.parts_uniform expressions)
  | .switch subject cases defaultBody _, _ =>
    Render.switch_uniform ⟨⟨subject, fun _ => rfl⟩, subject.script_uniform⟩
      (SwitchCase.scripts_uniform cases) (Expr.optionalPart_uniform defaultBody)
  | .tryCatch body handlers fault finalizer _, _ =>
    Render.tryCatch_uniform ⟨⟨body, fun _ => rfl⟩, body.script_uniform⟩
      (CatchBlock.scripts_uniform handlers) (Expr.optionalPart_uniform fault)
      (Expr.optionalPart_uniform finalizer)
  | .label _ _, _ => .const _
  | .goto kind target value _, _ =>
    Render.goto_uniform kind target (Expr.optionalPart_uniform value)
  | .loop body _, _ => Render.loop_uniform ⟨⟨body, fun _ => rfl⟩, body.script_uniform⟩
  | .variablesGroup _ _, _ => .const _
  | .debugMarker _ _, _ => .const _
  | .late operation arguments type, _ =>
    Render.late_uniform .aql operation type (Expr.parts_uniform arguments)

theorem Expr.itemScripts_uniform : (expr : Expr) →
    Each Script.Uniform fun name => (expr.renamed old name).itemScripts .aql
  | .newArray .init items _ => Expr.scripts_uniform items
  | .newArray .bounds _ _ => .nil
  | .binary .. | .unary .. | .lambda .. | .parameter _ | .constant .. | .captured ..
  | .memberAccess .. | .newObject _ | .call .. | .memberInit .. | .listInit .. | .conditional ..
  | .defaultValue _ | .typeTest .. | .invocation .. | .index .. | .block .. | .switch ..
  | .tryCatch .. | .label .. | .goto .. | .loop .. | .variablesGroup .. | .debugMarker ..
  | .late .. => .nil

theorem Expr.itemScriptsAt_uniform : (exprs : List Expr) → (index : Nat) →
    Each Script.Uniform fun name =>
      Expr.itemScriptsAt .aql (Expr.listMapNodes (Expr.renameNode old name) exprs) index
  | [], _ => .nil
  | expr :: _, 0 => expr.itemScripts_uniform
  | _ :: exprs, index + 1 => Expr.itemScriptsAt_uniform exprs index

theorem Expr.scripts_uniform : (exprs : List Expr) →
    Each Script.Uniform fun name =>
      Expr.scripts .aql (Expr.listMapNodes (Expr.renameNode old name) exprs)
  | [] => .nil
  | expr :: exprs => .cons (expr.script_uniform {}) (Expr.scripts_uniform exprs)

theorem Expr.parts_uniform : (exprs : List Expr) →
    Each (Part.Uniform old) fun name =>
      Expr.parts .aql (Expr.listMapNodes (Expr.renameNode old name) exprs)
  | [] => .nil
  | expr :: exprs =>
    .cons ⟨⟨expr, fun _ => rfl⟩, expr.script_uniform⟩ (Expr.parts_uniform exprs)

theorem Expr.optionalPart_uniform : (expr : Option Expr) →
    IfAny (Part.Uniform old) fun name =>
      Expr.optionalPart .aql (Expr.optionMapNodes (Expr.renameNode old name) expr)
  | none => .none
  | some expr => .some ⟨⟨expr, fun _ => rfl⟩, expr.script_uniform⟩

theorem NewObject.script_uniform : (new : NewObject) →
    Script.Uniform fun name => (new.mapNodes (Expr.renameNode old name)).script .aql
  | .mk arguments members type =>
    Render.newObject_uniform members type (Expr.parts_uniform arguments)

theorem Binding.script_uniform : (binding : Binding) →
    Script.Uniform fun name => (binding.mapNodes (Expr.renameNode old name)).script .aql
  | .assignment _ value => (Script.Uniform.write _).append (.enter _ (value.script_uniform {}))
  | .nested _ bindings =>
    (Script.Uniform.write _).append (Render.braced_uniform _ (Binding.scripts_uniform bindings))
  | .list _ initializers =>
    (Script.Uniform.write _).append
      (Render.braced_uniform _ (ElementInit.scripts_uniform initializers))

theorem Binding.scripts_uniform : (bindings : List Binding) →
    Each Script.Uniform fun name =>
      Binding.scripts .aql (Binding.listMapNodes (Expr.renameNode old name) bindings)
  | [] => .nil
  | binding :: bindings => .cons binding.script_uniform (Binding.scripts_uniform bindings)

theorem ElementInit.script_uniform : (init : ElementInit) →
    Script.Uniform fun name => (init.mapNodes (Expr.renameNode old name)).script .aql
  | .mk arguments => Render.elementInit_uniform (Expr.parts_uniform arguments)

theorem ElementInit.scripts_uniform : (inits : List ElementInit) →
    Each Script.Uniform fun name =>
      ElementInit.scripts .aql (ElementInit.listMapNodes (Expr.renameNode old name) inits)
  | [] => .nil
  | init :: inits => .cons init.script_uniform (ElementInit.scripts_uniform inits)

theorem SwitchCase.script_uniform : (first : SwitchCase) →
    Script.Uniform fun name => (first.mapNodes (Expr.renameNode old name)).script .aql
  | .mk testValues body =>
    Render.switchCase_uniform (Expr.parts_uniform testValues)
      ⟨⟨body, fun _ => rfl⟩, body.script_uniform⟩

theorem SwitchCase.scripts_uniform : (cases : List SwitchCase) →
    Each Script.Uniform fun name =>
      SwitchCase.scripts .aql (SwitchCase.listMapNodes (Expr.renameNode old name) cases)
  | [] => .nil
  | first :: cases => .cons first.script_uniform (SwitchCase.scripts_uniform cases)

theorem CatchBlock.script_uniform : (handler : CatchBlock) →
    Script.Uniform fun name => (handler.mapNodes (Expr.renameNode old name)).script .aql
  | .mk test exception filter body =>
    Render.catchBlock_uniform .aql test exception (Expr.optionalPart_uniform filter)
      ⟨⟨body, fun _ => rfl⟩, body.script_uniform⟩

theorem CatchBlock.scripts_uniform : (handlers : List CatchBlock) →
    Each Script.Uniform fun name =>
      CatchBlock.scripts .aql (CatchBlock.listMapNodes (Expr.renameNode old name) handlers)
  | [] => .nil
  | handler :: handlers => .cons handler.script_uniform (CatchBlock.scripts_uniform handlers)

end

end AqlPipeline
