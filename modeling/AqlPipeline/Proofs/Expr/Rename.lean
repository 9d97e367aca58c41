import AqlPipeline.Proofs.Expr.Children
import AqlPipeline.Proofs.Expr.HiddenChange
import AqlPipeline.Proofs.Expr.MapNodes

/-!
# Renaming a parameter

References to a parameter by one name become references by another one.  That does not show in
anything that is asked about the expression itself: neither its type nor its value has the name.
-/

namespace AqlPipeline

namespace Expr

/-- A node, with the new name if it is a reference by the old one. -/
def renameNode (old new : String) : Expr → Expr
  | .parameter reference =>
    .parameter { reference with name := if reference.name = old then new else reference.name }
  | expr => expr

/-- An expression with the new name in each reference by the old one. -/
def renamed (old new : String) (expr : Expr) : Expr :=
  expr.mapNodes (renameNode old new)

/-- Whether there is a reference by a name anywhere below an expression. -/
def RefersTo (name : String) (expr : Expr) : Prop :=
  ∃ reference : Parameter, .parameter reference ∈ expr.nodes ∧ reference.name = name

variable (old new : String)

/-! ## Renamings that change nothing -/

theorem renamed_of_fixes {expr : Expr}
    (kept : ∀ reference : Parameter, .parameter reference ∈ expr.nodes → reference.name = old →
      new = old) : expr.renamed old new = expr := by
  apply expr.mapNodes_of_fixes
  intro node member
  cases node with
  | parameter reference =>
      by_cases named : reference.name = old
      · rw [renameNode, if_pos named, kept reference member named, ← named]
      · rw [renameNode, if_neg named]
  | _ => rfl

theorem renamed_self (expr : Expr) : expr.renamed old old = expr :=
  renamed_of_fixes old old fun _ _ _ => rfl

theorem renamed_of_not_refersTo {expr : Expr} (unused : ¬ expr.RefersTo old) :
    expr.renamed old new = expr :=
  renamed_of_fixes old new fun reference member named => absurd ⟨reference, member, named⟩ unused

/-! ## What is asked about an expression -/

@[simp] theorem type_renamed (expr : Expr) : (expr.renamed old new).type = expr.type := by
  cases expr with
  | newObject new => cases new; rfl
  | memberInit new => cases new; rfl
  | listInit new => cases new; rfl
  | _ => rfl

@[simp] theorem memberName?_renamed (expr : Expr) :
    (expr.renamed old new).memberName? = expr.memberName? := by
  cases expr <;> rfl

@[simp] theorem isMember_renamed (expr : Expr) :
    (expr.renamed old new).isMember = expr.isMember := by
  cases expr <;> rfl

@[simp] theorem constant?_renamed (expr : Expr) :
    (expr.renamed old new).constant? = expr.constant? := by
  cases expr <;> rfl

@[simp] theorem isEmpty_renamed (expr : Expr) : (expr.renamed old new).isEmpty = expr.isEmpty := by
  cases expr <;> rfl

@[simp] theorem listMapNodes_length (change : Expr → Expr) (exprs : List Expr) :
    (listMapNodes change exprs).length = exprs.length := by
  induction exprs with
  | nil => rfl
  | cons expr exprs ih => simp [listMapNodes, ih]

/-! ## Nodes -/

section Children

variable (change : Expr → Expr)

theorem optionMapNodes_toList (expr : Option Expr) :
    (optionMapNodes change expr).toList = expr.toList.map (mapNodes change) := by
  cases expr <;> rfl

theorem listMapNodes_eq_map (exprs : List Expr) :
    listMapNodes change exprs = exprs.map (mapNodes change) := by
  induction exprs with
  | nil => rfl
  | cons expr exprs ih => rw [listMapNodes, ih, List.map_cons]

theorem arguments_mapNodes (new : NewObject) :
    (new.mapNodes change).arguments = new.arguments.map (mapNodes change) := by
  cases new
  exact listMapNodes_eq_map change _

theorem initializersChildren_mapNodes (initializers : List ElementInit) :
    (ElementInit.listMapNodes change initializers).flatMap ElementInit.children =
      (initializers.flatMap ElementInit.children).map (mapNodes change) := by
  induction initializers with
  | nil => rfl
  | cons init inits ih =>
      obtain ⟨arguments⟩ := init
      rw [ElementInit.listMapNodes, List.flatMap_cons, ih, List.flatMap_cons, List.map_append,
        ElementInit.mapNodes, ElementInit.children, listMapNodes_eq_map]
      rfl

mutual

theorem bindingChildren_mapNodes : (binding : Binding) →
    (binding.mapNodes change).children = binding.children.map (mapNodes change)
  | .assignment _ _ => rfl
  | .nested _ bindings => bindingsChildren_mapNodes bindings
  | .list _ initializers => initializersChildren_mapNodes change initializers

theorem bindingsChildren_mapNodes : (bindings : List Binding) →
    Binding.listChildren (Binding.listMapNodes change bindings) =
      (Binding.listChildren bindings).map (mapNodes change)
  | [] => rfl
  | binding :: bindings => by
    rw [Binding.listMapNodes, Binding.listChildren, bindingChildren_mapNodes binding,
      bindingsChildren_mapNodes bindings, Binding.listChildren, List.map_append]

end

theorem casesChildren_mapNodes (cases : List SwitchCase) :
    (SwitchCase.listMapNodes change cases).flatMap SwitchCase.children =
      (cases.flatMap SwitchCase.children).map (mapNodes change) := by
  induction cases with
  | nil => rfl
  | cons first others ih =>
      obtain ⟨testValues, body⟩ := first
      rw [SwitchCase.listMapNodes, List.flatMap_cons, ih, List.flatMap_cons, List.map_append,
        SwitchCase.mapNodes, SwitchCase.children, listMapNodes_eq_map, SwitchCase.children,
        List.map_append]
      rfl

theorem handlersChildren_mapNodes (handlers : List CatchBlock) :
    (CatchBlock.listMapNodes change handlers).flatMap CatchBlock.children =
      (handlers.flatMap CatchBlock.children).map (mapNodes change) := by
  induction handlers with
  | nil => rfl
  | cons handler handlers ih =>
      obtain ⟨test, exception, filter, body⟩ := handler
      rw [CatchBlock.listMapNodes, List.flatMap_cons, ih, List.flatMap_cons, List.map_append,
        CatchBlock.mapNodes, CatchBlock.children, optionMapNodes_toList, CatchBlock.children,
        List.map_append]
      rfl

/-- One step: the children of a changed expression are the changed children, if the change of a node
leaves its children alone. -/
theorem children_mapNodes (kept : ∀ node, (change node).children = node.children) (expr : Expr) :
    (expr.mapNodes change).children = expr.children.map (mapNodes change) := by
  cases expr with
  | parameter | constant | captured | defaultValue | label | variablesGroup | debugMarker
  | binary | lambda | conditional | typeTest | loop => exact kept _
  | unary | memberAccess | goto => exact (kept _).trans (optionMapNodes_toList change _)
  | newArray | late | block => exact (kept _).trans (listMapNodes_eq_map change _)
  | newObject => exact (kept _).trans (arguments_mapNodes change _)
  | _ =>
      refine (kept _).trans ?_
      simp only [children, listMapNodes_eq_map, optionMapNodes_toList,
        arguments_mapNodes, initializersChildren_mapNodes, bindingsChildren_mapNodes,
        casesChildren_mapNodes, handlersChildren_mapNodes, List.map_append, List.map_cons]

end Children

/-- The nodes of a renamed expression are renamed nodes. -/
theorem mem_nodes_renamed {expr node : Expr} (member : node ∈ (expr.renamed old new).nodes) :
    ∃ original ∈ expr.nodes, node = original.renamed old new := by
  have kept : ∀ node, (renameNode old new node).children = node.children := by
    intro node
    cases node <;> rfl
  simp only [mem_nodes_iff] at member ⊢
  induction member with
  | refl => exact ⟨expr, .refl, rfl⟩
  | tail _ child ih =>
      obtain ⟨parent, reached, rfl⟩ := ih
      rw [renamed, children_mapNodes _ kept] at child
      obtain ⟨original, below, rfl⟩ := List.mem_map.mp child
      exact ⟨original, reached.tail below, rfl⟩

end Expr

namespace Render

variable (old new : String)

@[simp] theorem holdsCaptures_renamed (expr : Expr) :
    holdsCaptures (expr.renamed old new) = holdsCaptures expr := by
  cases expr <;> rfl

@[simp] theorem isLabel_renamed (expr : Expr) : isLabel (expr.renamed old new) = isLabel expr := by
  cases expr <;> rfl

@[simp] theorem isVariablesGroup_renamed (expr : Expr) :
    isVariablesGroup (expr.renamed old new) = isVariablesGroup expr := by
  cases expr <;> rfl

@[simp] theorem statementEnd_renamed (expr : Expr) :
    statementEnd (expr.renamed old new) = statementEnd expr := by
  cases expr with
  | unary operator => cases operator <;> rfl
  | _ => rfl

@[simp] theorem isLongBlock_renamed (expr : Expr) :
    isLongBlock (expr.renamed old new) = isLongBlock expr := by
  cases expr with
  | block =>
      simp [Expr.renamed, Expr.mapNodes, Expr.renameNode, isLongBlock, Expr.hasMultipleLines]
  | _ => rfl

theorem isInlined_renamed : (expr : Expr) →
    isInlined (expr.renamed old new) = isInlined expr
  | .block [] [single] _ => isInlined_renamed single
  | .block [] [] _ | .block [] (_ :: _ :: _) _ | .block (_ :: _) _ _ => rfl
  | .unary operator _ _ => by cases operator <;> rfl
  | .binary .. | .lambda .. | .parameter _ | .constant .. | .captured .. | .memberAccess ..
  | .newObject _ | .call .. | .memberInit .. | .listInit .. | .newArray .. | .conditional ..
  | .defaultValue _ | .typeTest .. | .invocation .. | .index .. | .switch .. | .tryCatch ..
  | .label .. | .goto .. | .loop .. | .variablesGroup .. | .debugMarker .. | .late .. => rfl

end Render

/-! ## Parameters below an expression -/

section Mentions

variable (old new : String)

mutual

@[simp] theorem Expr.mentionsParameter_renamed :
    (expr : Expr) → (expr.renamed old new).mentionsParameter = expr.mentionsParameter
  | .binary _ left right _ =>
    congrArg₂ or left.mentionsParameter_renamed right.mentionsParameter_renamed
  | .unary _ operand _ => Expr.optionMentions_renamed operand
  | .lambda _ body _ => body.mentionsParameter_renamed
  | .parameter _ | .constant .. | .captured .. | .defaultValue _ | .label .. | .variablesGroup ..
  | .debugMarker .. => rfl
  | .memberAccess owner _ _ => Expr.optionMentions_renamed owner
  | .newObject new => NewObject.mentions_renamed new
  | .call target _ arguments _ =>
    congrArg₂ or (Expr.optionMentions_renamed target) (Expr.listMentions_renamed arguments)
  | .memberInit new bindings =>
    congrArg₂ or (NewObject.mentions_renamed new) (Binding.listMentions_renamed bindings)
  | .listInit new initializers =>
    congrArg₂ or (NewObject.mentions_renamed new) (ElementInit.listMentions_renamed initializers)
  | .newArray _ items _ => Expr.listMentions_renamed items
  | .conditional test ifTrue ifFalse _ =>
    congrArg₂ or (congrArg₂ or test.mentionsParameter_renamed ifTrue.mentionsParameter_renamed)
      ifFalse.mentionsParameter_renamed
  | .typeTest _ subject _ _ => subject.mentionsParameter_renamed
  | .invocation function arguments _ =>
    congrArg₂ or function.mentionsParameter_renamed (Expr.listMentions_renamed arguments)
  | .index object arguments _ =>
    congrArg₂ or object.mentionsParameter_renamed (Expr.listMentions_renamed arguments)
  | .block locals expressions _ =>
    congrArg (!locals.isEmpty || ·) (Expr.listMentions_renamed expressions)
  | .switch subject cases defaultBody _ =>
    congrArg₂ or
      (congrArg₂ or subject.mentionsParameter_renamed (SwitchCase.listMentions_renamed cases))
      (Expr.optionMentions_renamed defaultBody)
  | .tryCatch body handlers fault finalizer _ =>
    congrArg₂ or
      (congrArg₂ or
        (congrArg₂ or body.mentionsParameter_renamed (CatchBlock.listMentions_renamed handlers))
        (Expr.optionMentions_renamed fault))
      (Expr.optionMentions_renamed finalizer)
  | .goto _ _ value _ => Expr.optionMentions_renamed value
  | .loop body _ => body.mentionsParameter_renamed
  | .late _ arguments _ => Expr.listMentions_renamed arguments

theorem Expr.optionMentions_renamed : (operand : Option Expr) →
    Expr.optionMentions (Expr.optionMapNodes (Expr.renameNode old new) operand) =
      Expr.optionMentions operand
  | none => rfl
  | some expr => expr.mentionsParameter_renamed

theorem Expr.listMentions_renamed : (exprs : List Expr) →
    Expr.listMentions (Expr.listMapNodes (Expr.renameNode old new) exprs) =
      Expr.listMentions exprs
  | [] => rfl
  | expr :: exprs =>
    congrArg₂ or expr.mentionsParameter_renamed (Expr.listMentions_renamed exprs)

theorem NewObject.mentions_renamed : (new' : NewObject) →
    Expr.newMentions (new'.mapNodes (Expr.renameNode old new)) = Expr.newMentions new'
  | .mk arguments _ _ => Expr.listMentions_renamed arguments

theorem Binding.mentions_renamed : (binding : Binding) →
    Expr.bindingMentions (binding.mapNodes (Expr.renameNode old new)) =
      Expr.bindingMentions binding
  | .assignment _ value => value.mentionsParameter_renamed
  | .nested _ bindings => Binding.listMentions_renamed bindings
  | .list _ initializers => ElementInit.listMentions_renamed initializers

theorem Binding.listMentions_renamed : (bindings : List Binding) →
    Expr.bindingsMention (Binding.listMapNodes (Expr.renameNode old new) bindings) =
      Expr.bindingsMention bindings
  | [] => rfl
  | binding :: bindings =>
    congrArg₂ or binding.mentions_renamed (Binding.listMentions_renamed bindings)

theorem ElementInit.mentions_renamed : (init : ElementInit) →
    Expr.initializerMentions (init.mapNodes (Expr.renameNode old new)) =
      Expr.initializerMentions init
  | .mk arguments => Expr.listMentions_renamed arguments

theorem ElementInit.listMentions_renamed : (inits : List ElementInit) →
    Expr.initializersMention (ElementInit.listMapNodes (Expr.renameNode old new) inits) =
      Expr.initializersMention inits
  | [] => rfl
  | init :: inits => congrArg₂ or init.mentions_renamed (ElementInit.listMentions_renamed inits)

theorem SwitchCase.mentions_renamed : (first : SwitchCase) →
    Expr.caseMentions (first.mapNodes (Expr.renameNode old new)) = Expr.caseMentions first
  | .mk testValues body =>
    congrArg₂ or (Expr.listMentions_renamed testValues) body.mentionsParameter_renamed

theorem SwitchCase.listMentions_renamed : (cases : List SwitchCase) →
    Expr.casesMention (SwitchCase.listMapNodes (Expr.renameNode old new) cases) =
      Expr.casesMention cases
  | [] => rfl
  | first :: cases => congrArg₂ or first.mentions_renamed (SwitchCase.listMentions_renamed cases)

theorem CatchBlock.mentions_renamed : (handler : CatchBlock) →
    Expr.handlerMentions (handler.mapNodes (Expr.renameNode old new)) =
      Expr.handlerMentions handler
  | .mk _ exception filter body =>
    congrArg₂ or (congrArg (exception.isSome || ·) (Expr.optionMentions_renamed filter))
      body.mentionsParameter_renamed

theorem CatchBlock.listMentions_renamed : (handlers : List CatchBlock) →
    Expr.handlersMention (CatchBlock.listMapNodes (Expr.renameNode old new) handlers) =
      Expr.handlersMention handlers
  | [] => rfl
  | handler :: handlers =>
    congrArg₂ or handler.mentions_renamed (CatchBlock.listMentions_renamed handlers)

end

end Mentions

/-! ## Values known before the query runs -/

section Values

variable (old new : String)

theorem Expr.joinedItems_renamed (arguments : List Expr) :
    joinedItems (listMapNodes (renameNode old new) arguments) =
      listMapNodes (renameNode old new) (joinedItems arguments) := by
  match arguments with
  | [] => rfl
  | [expr] =>
      cases expr with
      | newArray kind => cases kind <;> rfl
      | _ => rfl
  | _ :: _ :: _ => simp [joinedItems, listMapNodes]

mutual

@[simp] theorem Expr.staticValue?_renamed : (expr : Expr) →
    (expr.renamed old new).staticValue? = expr.staticValue?
  | .memberAccess (some owner) member _ => by
    change Expr.memberValue? (some (owner.renamed old new)) member =
      Expr.memberValue? (some owner) member
    rw [Expr.memberValue?_some, owner.staticValue?_renamed, ← Expr.memberValue?_some]
  | .unary operator (some operand) _ => by
    change (if operator.isConversion then (operand.renamed old new).staticValue? else none) =
      if operator.isConversion then operand.staticValue? else none
    rw [operand.staticValue?_renamed]
  | .binary operator left right type => by
    change (Expr.binary operator (left.renamed old new) (right.renamed old new) type).staticValue? =
      _
    simp only [Expr.staticValue?, left.staticValue?_renamed, right.staticValue?_renamed]
  | .call target method arguments type => by
    -- the recursion is not structural: the items of an array are joined in its place
    have smaller := Expr.sizeOf_joinedItems_le arguments
    change (Expr.call _ method (Expr.listMapNodes (Expr.renameNode old new) arguments)
      type).staticValue? = _
    rw [Expr.staticValue?_call, Expr.staticValue?_call, Expr.joinedItems_renamed,
      Expr.joinedTexts?_renamed (Expr.joinedItems arguments)]
  | .conditional test ifTrue ifFalse type => by
    change (Expr.conditional (test.renamed old new) (ifTrue.renamed old new)
      (ifFalse.renamed old new) type).staticValue? = _
    simp only [Expr.staticValue?, test.staticValue?_renamed, ifTrue.staticValue?_renamed,
      ifFalse.staticValue?_renamed]
  | .constant .. | .captured .. | .memberAccess none .. | .unary _ none _ | .lambda ..
  | .parameter _ | .newObject _ | .memberInit .. | .listInit .. | .newArray .. | .defaultValue _
  | .typeTest .. | .invocation .. | .index .. | .block .. | .switch .. | .tryCatch .. | .label ..
  | .goto .. | .loop .. | .variablesGroup .. | .debugMarker .. | .late .. => rfl
termination_by expr => sizeOf expr

theorem Expr.joinedTexts?_renamed : (exprs : List Expr) →
    Expr.joinedTexts? (Expr.listMapNodes (Expr.renameNode old new) exprs) =
      Expr.joinedTexts? exprs
  | [] => rfl
  | expr :: exprs => by
    change Expr.joinedTexts? (expr.renamed old new :: _) = _
    simp only [Expr.joinedTexts?, expr.staticValue?_renamed, Expr.joinedTexts?_renamed exprs]
termination_by exprs => sizeOf exprs

end

end Values

end AqlPipeline
