import AqlPipeline.Proofs.Expr.Nodes
import Mathlib.Logic.Relation

/-!
# The expressions below an expression

The children of an expression are the expressions that stand directly in it, or in a constructor
call, binding, item, case or handler of it.  Following children leads to all expressions below it.
An expression mentions a parameter if it comes to a variable that way, be it a reference to one or
the place where one is declared, and not otherwise.
-/

namespace AqlPipeline

/-! ## Children -/

/-- The expressions in the arguments for one item. -/
def ElementInit.children : ElementInit → List Expr
  | .mk arguments => arguments

mutual

/-- The expressions in a binding, with those in the bindings inside. -/
def Binding.children : Binding → List Expr
  | .assignment _ value => [value]
  | .nested _ bindings => Binding.listChildren bindings
  | .list _ initializers => initializers.flatMap ElementInit.children

/-- The expressions in some bindings. -/
def Binding.listChildren : List Binding → List Expr
  | [] => []
  | binding :: bindings => binding.children ++ Binding.listChildren bindings

end

/-- The expressions in a case. -/
def SwitchCase.children : SwitchCase → List Expr
  | .mk testValues body => testValues ++ [body]

/-- The expressions in a handler. -/
def CatchBlock.children : CatchBlock → List Expr
  | .mk _ _ filter body => filter.toList ++ [body]

/-- Whether a handler names the exception. -/
def CatchBlock.hasVariable : CatchBlock → Bool
  | .mk _ exception _ _ => exception.isSome

namespace Expr

/-- The expressions that stand directly in an expression. -/
def children : Expr → List Expr
  | .binary _ left right _ => [left, right]
  | .unary _ operand _ => operand.toList
  | .lambda _ body _ => [body]
  | .memberAccess owner _ _ => owner.toList
  | .newObject new => new.arguments
  | .call target _ arguments _ => target.toList ++ arguments
  | .memberInit new bindings => new.arguments ++ Binding.listChildren bindings
  | .listInit new initializers => new.arguments ++ initializers.flatMap ElementInit.children
  | .newArray _ items _ => items
  | .conditional test ifTrue ifFalse _ => [test, ifTrue, ifFalse]
  | .typeTest _ subject _ _ => [subject]
  | .invocation function arguments _ => function :: arguments
  | .index object arguments _ => object :: arguments
  | .block _ expressions _ => expressions
  | .switch subject cases defaultBody _ =>
    subject :: (cases.flatMap SwitchCase.children ++ defaultBody.toList)
  | .tryCatch body handlers fault finalizer _ =>
    body :: (handlers.flatMap CatchBlock.children ++ fault.toList ++ finalizer.toList)
  | .goto _ _ value _ => value.toList
  | .loop body _ => [body]
  | .late _ arguments _ => arguments
  | .parameter _ | .constant .. | .captured .. | .defaultValue _ | .label .. | .variablesGroup ..
  | .debugMarker .. => []

/-- Whether an expression is itself a reference to a variable, or declares or shows one. -/
def isVariable : Expr → Bool
  | .parameter _ => true
  | .block locals _ _ | .variablesGroup locals _ => !locals.isEmpty
  | .tryCatch _ handlers _ _ _ => handlers.any CatchBlock.hasVariable
  | _ => false

/-- Any number of steps from an expression to a child. -/
def Reaches : Expr → Expr → Prop :=
  Relation.ReflTransGen fun parent child => child ∈ parent.children

/-! ## Parameters among the children -/

theorem optionMentions_eq (expr : Option Expr) :
    optionMentions expr = expr.toList.any mentionsParameter := by
  cases expr with
  | none => rfl
  | some expr => simp [optionMentions]

theorem listMentions_eq (exprs : List Expr) :
    listMentions exprs = exprs.any mentionsParameter := by
  induction exprs with
  | nil => rfl
  | cons expr exprs ih => rw [listMentions, ih, List.any_cons]

theorem newMentions_eq (new : NewObject) :
    newMentions new = new.arguments.any mentionsParameter := by
  cases new
  exact listMentions_eq _

theorem initializersMention_eq (initializers : List ElementInit) :
    initializersMention initializers =
      (initializers.flatMap ElementInit.children).any mentionsParameter := by
  induction initializers with
  | nil => rfl
  | cons init inits ih =>
      obtain ⟨arguments⟩ := init
      rw [initializersMention, initializerMentions, ih, listMentions_eq, List.flatMap_cons,
        List.any_append, ElementInit.children]

mutual

theorem bindingMentions_eq : (binding : Binding) →
    bindingMentions binding = binding.children.any mentionsParameter
  | .assignment _ value => by simp [bindingMentions, Binding.children]
  | .nested _ bindings => bindingsMention_eq bindings
  | .list _ initializers => initializersMention_eq initializers

theorem bindingsMention_eq : (bindings : List Binding) →
    bindingsMention bindings = (Binding.listChildren bindings).any mentionsParameter
  | [] => rfl
  | binding :: bindings => by
    rw [bindingsMention, bindingMentions_eq binding, bindingsMention_eq bindings,
      Binding.listChildren, List.any_append]

end

theorem casesMention_eq (cases : List SwitchCase) :
    casesMention cases = (cases.flatMap SwitchCase.children).any mentionsParameter := by
  induction cases with
  | nil => rfl
  | cons first others ih =>
      obtain ⟨testValues, body⟩ := first
      simp [casesMention, caseMentions, ih, listMentions_eq, SwitchCase.children, Bool.or_assoc]

/-- A handler counts for the exception that it names as well. -/
theorem handlersMention_eq (handlers : List CatchBlock) :
    handlersMention handlers = (handlers.any CatchBlock.hasVariable ||
      (handlers.flatMap CatchBlock.children).any mentionsParameter) := by
  induction handlers with
  | nil => rfl
  | cons handler handlers ih =>
      obtain ⟨test, exception, filter, body⟩ := handler
      simp only [handlersMention, handlerMentions, ih, optionMentions_eq, List.any_cons,
        CatchBlock.hasVariable, List.flatMap_cons, CatchBlock.children, List.any_append,
        List.any_nil, Bool.or_false]
      ac_rfl

/-- One step: an expression mentions a parameter if it is a variable itself or one of its children
mentions one. -/
theorem mentionsParameter_eq (expr : Expr) :
    expr.mentionsParameter = (expr.isVariable || expr.children.any mentionsParameter) := by
  cases expr with
  | parameter | constant | captured | defaultValue | label | debugMarker => rfl
  | variablesGroup => simp [mentionsParameter, isVariable, children]
  | binary | lambda | conditional | typeTest | loop =>
      simp [mentionsParameter, isVariable, children, Bool.or_assoc]
  | unary | memberAccess | goto =>
      simp [mentionsParameter, isVariable, children, optionMentions_eq]
  | newArray | late | block => simp [mentionsParameter, isVariable, children, listMentions_eq]
  | invocation | index => simp [mentionsParameter, isVariable, children, listMentions_eq]
  | newObject => simp [mentionsParameter, isVariable, children, newMentions_eq]
  | call => simp [mentionsParameter, isVariable, children, optionMentions_eq, listMentions_eq]
  | memberInit =>
      simp [mentionsParameter, isVariable, children, newMentions_eq, bindingsMention_eq]
  | listInit =>
      simp [mentionsParameter, isVariable, children, newMentions_eq, initializersMention_eq]
  | switch =>
      simp [mentionsParameter, isVariable, children, casesMention_eq, optionMentions_eq,
        Bool.or_assoc]
  | tryCatch =>
      simp only [mentionsParameter, isVariable, children, handlersMention_eq, optionMentions_eq,
        List.any_cons, List.any_append]
      ac_rfl

/-! ## Nodes -/

theorem optionNodes_eq (expr : Option Expr) : optionNodes expr = expr.toList.flatMap nodes := by
  cases expr with
  | none => rfl
  | some expr => simp [optionNodes]

theorem listNodes_eq (exprs : List Expr) : listNodes exprs = exprs.flatMap nodes := by
  induction exprs with
  | nil => rfl
  | cons expr exprs ih => rw [listNodes, ih, List.flatMap_cons]

theorem newNodes_eq (new : NewObject) : new.nodes = new.arguments.flatMap nodes := by
  cases new
  exact listNodes_eq _

theorem initializersNodes_eq (initializers : List ElementInit) :
    ElementInit.listNodes initializers =
      (initializers.flatMap ElementInit.children).flatMap nodes := by
  induction initializers with
  | nil => rfl
  | cons init inits ih =>
      obtain ⟨arguments⟩ := init
      rw [ElementInit.listNodes, ElementInit.nodes, ih, listNodes_eq, List.flatMap_cons,
        List.flatMap_append, ElementInit.children]

mutual

theorem bindingNodes_eq : (binding : Binding) → binding.nodes = binding.children.flatMap nodes
  | .assignment _ value => by simp [Binding.nodes, Binding.children]
  | .nested _ bindings => bindingsNodes_eq bindings
  | .list _ initializers => initializersNodes_eq initializers

theorem bindingsNodes_eq : (bindings : List Binding) →
    Binding.listNodes bindings = (Binding.listChildren bindings).flatMap nodes
  | [] => rfl
  | binding :: bindings => by
    rw [Binding.listNodes, bindingNodes_eq binding, bindingsNodes_eq bindings,
      Binding.listChildren, List.flatMap_append]

end

theorem casesNodes_eq (cases : List SwitchCase) :
    SwitchCase.listNodes cases = (cases.flatMap SwitchCase.children).flatMap nodes := by
  induction cases with
  | nil => rfl
  | cons first others ih =>
      obtain ⟨testValues, body⟩ := first
      simp only [SwitchCase.listNodes, SwitchCase.nodes, ih, listNodes_eq, List.flatMap_cons,
        SwitchCase.children, List.flatMap_append, List.flatMap_nil, List.append_nil]

theorem handlersNodes_eq (handlers : List CatchBlock) :
    CatchBlock.listNodes handlers = (handlers.flatMap CatchBlock.children).flatMap nodes := by
  induction handlers with
  | nil => rfl
  | cons handler handlers ih =>
      obtain ⟨test, exception, filter, body⟩ := handler
      simp only [CatchBlock.listNodes, CatchBlock.nodes, ih, optionNodes_eq, List.flatMap_cons,
        CatchBlock.children, List.flatMap_append, List.flatMap_nil, List.append_nil]

/-- One step: the nodes of an expression are itself and the nodes of its children. -/
theorem nodes_eq (expr : Expr) : expr.nodes = expr :: expr.children.flatMap nodes := by
  cases expr with
  | parameter | constant | captured | defaultValue | label | variablesGroup | debugMarker => rfl
  | binary | lambda | conditional | typeTest | loop => simp [nodes, children]
  | unary | memberAccess | goto => simp [nodes, children, optionNodes_eq]
  | newArray | late | block | invocation | index => simp [nodes, children, listNodes_eq]
  | newObject => simp [nodes, children, newNodes_eq]
  | call => simp [nodes, children, optionNodes_eq, listNodes_eq]
  | memberInit =>
      simp only [nodes, children, newNodes_eq, bindingsNodes_eq, List.flatMap_append]
  | listInit =>
      simp only [nodes, children, newNodes_eq, initializersNodes_eq, List.flatMap_append]
  | switch =>
      simp only [nodes, children, casesNodes_eq, optionNodes_eq, List.flatMap_cons,
        List.flatMap_append]
  | tryCatch =>
      simp only [nodes, children, handlersNodes_eq, optionNodes_eq, List.flatMap_cons,
        List.flatMap_append, List.append_assoc]

/-- A child has fewer nodes. -/
theorem length_nodes_lt {expr child : Expr} (member : child ∈ expr.children) :
    child.nodes.length < expr.nodes.length := by
  have inside : child.nodes.length ≤ (expr.children.flatMap nodes).length :=
    (List.sublist_flatten_of_mem (List.mem_map_of_mem member)).length_le
  rw [nodes_eq expr, List.length_cons]
  omega

/-- The nodes of an expression are those that following children leads to. -/
theorem mem_nodes_iff {expr node : Expr} : node ∈ expr.nodes ↔ expr.Reaches node := by
  rw [nodes_eq, List.mem_cons, List.mem_flatMap]
  constructor
  · rintro (rfl | ⟨child, member, below⟩)
    · exact .refl
    · have := length_nodes_lt member
      exact .head member (mem_nodes_iff.mp below)
  · intro reached
    rcases Relation.ReflTransGen.cases_head reached with rfl | ⟨child, member, below⟩
    · exact .inl rfl
    · have := length_nodes_lt member
      exact .inr ⟨child, member, mem_nodes_iff.mpr below⟩
termination_by expr.nodes.length

/-! ## Parameters at any depth -/

/-- An expression mentions a parameter if one of its nodes is a variable. -/
theorem mentionsParameter_eq_any (expr : Expr) :
    expr.mentionsParameter = expr.nodes.any isVariable := by
  have below : expr.children.any mentionsParameter =
      expr.children.any fun child => child.nodes.any isVariable := by
    rw [Bool.eq_iff_iff, List.any_eq_true, List.any_eq_true]
    refine exists_congr fun child => and_congr_right fun member => ?_
    have := length_nodes_lt member
    rw [mentionsParameter_eq_any child]
  rw [mentionsParameter_eq, nodes_eq, List.any_cons, List.any_flatMap, below]
termination_by expr.nodes.length

/-- An expression mentions a parameter if and only if following children leads from it to a
variable. -/
theorem mentionsParameter_iff_reaches (expr : Expr) :
    expr.mentionsParameter = true ↔ ∃ node, expr.Reaches node ∧ node.isVariable = true := by
  simp only [mentionsParameter_eq_any, List.any_eq_true, mem_nodes_iff]

end Expr

end AqlPipeline
