import AqlPipeline.Proofs.Expr.Nodes
import AqlPipeline.Proofs.Render.TidyStatements
import AqlPipeline.Render.Expr

/-!
# Expressions are tidy

By induction on the expression: each form is tidy, as its parts are.  Jumps are the one form that
asks for more, as they write a name in front of a part.
-/

namespace AqlPipeline

/-- The place that an expression jumps to, if it is a jump. -/
def Expr.jumpTarget? : Expr → Option LabelTarget
  | .goto _ target _ _ => target
  | _ => none

/-- Whether no place that some expressions jump to has a space in its name. -/
def JumpPlainly (nodes : List Expr) : Prop :=
  ∀ node ∈ nodes, ∀ place ∈ node.jumpTarget?, ' ' ∉ (place.name.getD "").toList

instance (nodes : List Expr) : Decidable (JumpPlainly nodes) :=
  inferInstanceAs (Decidable (∀ node ∈ nodes, _))

/-- The name that is written between the word of a jump and its value, if there are both. -/
def Expr.jumpName? : Expr → Option String
  | .goto _ (some place) (some _) _ =>
    if Text.isAllBlank (place.name.getD "") then none else some (place.name.getD "")
  | _ => none

/-- Whether the names in front of the values of jumps end with at most four spaces.  The space
behind such a name is the fifth, and a line break one level deeper has five bytes. -/
def JumpNarrowly (nodes : List Expr) : Prop :=
  ∀ node ∈ nodes, ∀ name ∈ node.jumpName?, Text.trailingSpaces name.toList ≤ 4

instance (nodes : List Expr) : Decidable (JumpNarrowly nodes) :=
  inferInstanceAs (Decidable (∀ node ∈ nodes, _))

theorem JumpPlainly.narrowly {nodes : List Expr} (plain : JumpPlainly nodes) :
    JumpNarrowly nodes := by
  intro node member name named
  unfold Expr.jumpName? at named
  split at named
  · rename_i place _ _
    rw [Option.mem_def, Option.ite_none_left_eq_some] at named
    obtain ⟨-, ⟨⟩⟩ := named
    rw [Text.trailingSpaces_eq_zero (plain _ member place rfl)]
    exact Nat.zero_le 4
  · cases named

namespace JumpNarrowly

theorem left {first second : List Expr} (narrow : JumpNarrowly (first ++ second)) :
    JumpNarrowly first :=
  fun node member => narrow node (List.mem_append_left second member)

theorem right {first second : List Expr} (narrow : JumpNarrowly (first ++ second)) :
    JumpNarrowly second :=
  fun node member => narrow node (List.mem_append_right first member)

theorem tail {node : Expr} {nodes : List Expr} (narrow : JumpNarrowly (node :: nodes)) :
    JumpNarrowly nodes :=
  fun other member => narrow other (List.mem_cons_of_mem node member)

theorem head {kind : GotoKind} {target : Option LabelTarget} {value : Expr} {type : TypeRef}
    {nodes : List Expr} (narrow : JumpNarrowly (.goto kind target (some value) type :: nodes)) :
    ∀ place ∈ target, ¬ Text.isAllBlank (place.name.getD "") →
      Text.trailingSpaces (place.name.getD "").toList ≤ 4 := by
  rintro place ⟨⟩ named
  exact narrow _ List.mem_cons_self _ (if_neg named)

end JumpNarrowly

open Script

variable {dialect : Dialect}

mutual

/-- An expression is tidy wherever it stands. -/
theorem Expr.tidy : (expr : Expr) → JumpNarrowly expr.nodes → (placement : Placement) →
    Tidy .ready (expr.script dialect placement) .any
  | .binary operator left right _, narrow, _ =>
    Render.binary_tidy operator _ _ (left.tidy narrow.tail.left)
      (right.tidy narrow.tail.right)
  | .unary operator none _, _, _ => Render.bare_tidy operator
  | .unary operator (some operand) type, narrow, _ =>
    Render.unary_tidy operator _ type (operand.tidy narrow.tail)
  | .lambda parameters body _, narrow, _ =>
    Render.lambda_tidy parameters (body.tidy narrow.tail)
  | .parameter _, _, _ => .write _
  | .constant _ _, _, _ => .write _
  | .captured name value _, _, _ => .bindNamed name value
  | .memberAccess owner member type, narrow, _ =>
    Render.memberAccess_tidy (Expr.optionalPart_tidy owner narrow.tail) member type
  | .newObject new, narrow, _ => new.script_tidy narrow.tail
  | .call target method arguments _, narrow, _ =>
    Render.call_tidy method (Expr.optionalPart_tidy target narrow.tail.left)
      (Expr.parts_tidy arguments narrow.tail.right)
      (Expr.itemScriptsAt_tidy arguments narrow.tail.right)
  | .memberInit new bindings, narrow, _ =>
    Render.memberInit_tidy new (new.script_tidy narrow.tail.left)
      (Binding.scripts_tidy bindings narrow.tail.right)
  | .listInit _ initializers, narrow, _ =>
    Render.listInit_tidy (ElementInit.scripts_tidy initializers narrow.tail.right)
  | .newArray kind items type, narrow, _ =>
    Render.newArray_tidy kind type (Expr.parts_tidy items narrow.tail)
  | .conditional test ifTrue ifFalse type, narrow, _ =>
    Render.conditional_tidy type (test.tidy narrow.tail.left)
      (ifTrue.tidy narrow.tail.right.left) (ifFalse.tidy narrow.tail.right.right)
  | .defaultValue _, _, _ => .write _
  | .typeTest kind subject operand _, narrow, _ =>
    Render.typeTest_tidy kind operand (subject.tidy narrow.tail)
  | .invocation function arguments _, narrow, _ =>
    Render.invocation_tidy (function.tidy narrow.tail.left)
      (Expr.parts_tidy arguments narrow.tail.right)
  | .index object arguments _, narrow, _ =>
    Render.element_tidy _ (object.tidy narrow.tail.left)
      (Part.IsTidy.keys 0 (Expr.parts_tidy arguments narrow.tail.right))
  | .block locals expressions _, narrow, placement =>
    Render.block_tidy locals (Expr.parts_tidy expressions narrow.tail) placement
  | .switch subject cases defaultBody _, narrow, _ =>
    Render.switch_tidy (subject.tidy narrow.tail.left)
      (SwitchCase.scripts_tidy cases narrow.tail.right.left)
      (Expr.optionalPart_tidy defaultBody narrow.tail.right.right)
  | .tryCatch body handlers fault finalizer _, narrow, _ =>
    Render.tryCatch_tidy (body.tidy narrow.tail.left)
      (CatchBlock.scripts_tidy handlers narrow.tail.right.left)
      (Expr.optionalPart_tidy fault narrow.tail.right.right.left)
      (Expr.optionalPart_tidy finalizer narrow.tail.right.right.right)
  | .label target _, _, _ => Render.label_tidy target
  | .goto kind _ none _, _, _ => Render.goto_tidy kind nofun nofun
  | .goto kind _ (some value) _, narrow, _ =>
    Render.goto_tidy kind (fun _ => narrow.head) (Expr.optionalPart_tidy (some value) narrow.tail)
  | .loop body _, narrow, _ => Render.loop_tidy (body.tidy narrow.tail)
  | .variablesGroup locals _, _, _ => Render.variablesGroup_tidy locals
  | .debugMarker marker _, _, _ => Render.debugMarker_tidy marker
  | .late operation arguments type, narrow, _ =>
    Render.late_tidy operation type (Expr.parts_tidy arguments narrow.tail)

theorem Expr.itemScripts_tidy : (expr : Expr) → JumpNarrowly expr.nodes →
    ∀ script ∈ expr.itemScripts dialect, Tidy .ready script .any
  | .newArray .init items _, narrow => Expr.scripts_tidy items narrow.tail
  | .newArray .bounds _ _, _ => nofun
  | .binary .., _ | .unary .., _ | .lambda .., _ | .parameter _, _ | .constant .., _
  | .captured .., _ | .memberAccess .., _ | .newObject _, _ | .call .., _ | .memberInit .., _
  | .listInit .., _ | .conditional .., _ | .defaultValue _, _ | .typeTest .., _
  | .invocation .., _ | .index .., _ | .block .., _ | .switch .., _ | .tryCatch .., _
  | .label .., _ | .goto .., _ | .loop .., _ | .variablesGroup .., _ | .debugMarker .., _
  | .late .., _ => nofun

theorem Expr.itemScriptsAt_tidy : (exprs : List Expr) → JumpNarrowly (Expr.listNodes exprs) →
    (index : Nat) → ∀ script ∈ Expr.itemScriptsAt dialect exprs index, Tidy .ready script .any
  | [], _, _ => nofun
  | expr :: _, narrow, 0 => expr.itemScripts_tidy narrow.left
  | _ :: exprs, narrow, index + 1 => Expr.itemScriptsAt_tidy exprs narrow.right index

theorem Expr.scripts_tidy : (exprs : List Expr) → JumpNarrowly (Expr.listNodes exprs) →
    ∀ script ∈ Expr.scripts dialect exprs, Tidy .ready script .any
  | [], _ => nofun
  | expr :: exprs, narrow =>
    List.forall_mem_cons.mpr
      ⟨expr.tidy narrow.left {}, Expr.scripts_tidy exprs narrow.right⟩

theorem Expr.parts_tidy : (exprs : List Expr) → JumpNarrowly (Expr.listNodes exprs) →
    ∀ part ∈ Expr.parts dialect exprs, part.IsTidy
  | [], _ => nofun
  | expr :: exprs, narrow =>
    List.forall_mem_cons.mpr ⟨expr.tidy narrow.left, Expr.parts_tidy exprs narrow.right⟩

theorem Expr.optionalPart_tidy : (expr : Option Expr) → JumpNarrowly (Expr.optionNodes expr) →
    ∀ part ∈ Expr.optionalPart dialect expr, part.IsTidy
  | none, _ => nofun
  | some expr, narrow => fun _ own => Option.mem_some.mp own ▸ expr.tidy narrow

theorem NewObject.script_tidy : (new : NewObject) → JumpNarrowly new.nodes →
    Tidy .ready (new.script dialect) .any
  | .mk arguments members type, narrow =>
    Render.newObject_tidy (Expr.parts_tidy arguments narrow) members type

theorem Binding.script_tidy : (binding : Binding) → JumpNarrowly binding.nodes →
    Tidy .ready (binding.script dialect) .any
  | .assignment member value, narrow =>
    Render.assigned_tidy member ((value.tidy narrow {}).enter _)
  | .nested member bindings, narrow =>
    Render.assigned_tidy member (Render.braced_tidy _ (Binding.scripts_tidy bindings narrow))
  | .list member initializers, narrow =>
    Render.assigned_tidy member
      (Render.braced_tidy _ (ElementInit.scripts_tidy initializers narrow))

theorem Binding.scripts_tidy : (bindings : List Binding) →
    JumpNarrowly (Binding.listNodes bindings) →
    ∀ script ∈ Binding.scripts dialect bindings, Tidy .ready script .any
  | [], _ => nofun
  | binding :: bindings, narrow =>
    List.forall_mem_cons.mpr
      ⟨binding.script_tidy narrow.left, Binding.scripts_tidy bindings narrow.right⟩

theorem ElementInit.script_tidy : (init : ElementInit) → JumpNarrowly init.nodes →
    Tidy .ready (init.script dialect) .any
  | .mk arguments, narrow => Render.elementInit_tidy (Expr.parts_tidy arguments narrow)

theorem ElementInit.scripts_tidy : (inits : List ElementInit) →
    JumpNarrowly (ElementInit.listNodes inits) →
    ∀ script ∈ ElementInit.scripts dialect inits, Tidy .ready script .any
  | [], _ => nofun
  | init :: inits, narrow =>
    List.forall_mem_cons.mpr
      ⟨init.script_tidy narrow.left, ElementInit.scripts_tidy inits narrow.right⟩

theorem SwitchCase.script_tidy : (first : SwitchCase) → JumpNarrowly first.nodes →
    Tidy .any (first.script dialect) .any
  | .mk testValues body, narrow =>
    Render.switchCase_tidy (Expr.parts_tidy testValues narrow.left) (body.tidy narrow.right)

theorem SwitchCase.scripts_tidy : (cases : List SwitchCase) →
    JumpNarrowly (SwitchCase.listNodes cases) →
    ∀ script ∈ SwitchCase.scripts dialect cases, Tidy .any script .any
  | [], _ => nofun
  | first :: cases, narrow =>
    List.forall_mem_cons.mpr
      ⟨first.script_tidy narrow.left, SwitchCase.scripts_tidy cases narrow.right⟩

theorem CatchBlock.script_tidy : (handler : CatchBlock) → JumpNarrowly handler.nodes →
    Tidy .any (handler.script dialect) .any
  | .mk test exception filter body, narrow =>
    Render.catchBlock_tidy test exception (Expr.optionalPart_tidy filter narrow.left)
      (body.tidy narrow.right)

theorem CatchBlock.scripts_tidy : (handlers : List CatchBlock) →
    JumpNarrowly (CatchBlock.listNodes handlers) →
    ∀ script ∈ CatchBlock.scripts dialect handlers, Tidy .any script .any
  | [], _ => nofun
  | handler :: handlers, narrow =>
    List.forall_mem_cons.mpr
      ⟨handler.script_tidy narrow.left, CatchBlock.scripts_tidy handlers narrow.right⟩

end

theorem Expr.script_tidy (expr : Expr) (plain : JumpPlainly expr.nodes) (placement : Placement) :
    Tidy .ready (expr.script dialect placement) .any :=
  expr.tidy plain.narrowly placement

end AqlPipeline
