import AqlPipeline.Expr.Build
import AqlPipeline.Proofs.Expr.HiddenChange

/-!
# Other expressions in place of parameters

An expression may be put in place of any reference to a parameter.  A value that is known before the
query runs is not changed by that: what it is made of has no such references, and they may only
stand in a branch that is not taken.
-/

namespace AqlPipeline

mutual

/-- Whether an expression becomes another one when arbitrary expressions are put in place of some of
its references to parameters, each of them on its own. -/
inductive Expr.Filled : Expr → Expr → Prop where
  /-- Something in place of a reference. -/
  | reference (parameter : Parameter) (filler : Expr) : Expr.Filled (.parameter parameter) filler
  /-- Nothing is put in. -/
  | kept (expr : Expr) : Expr.Filled expr expr
  | binary (operator : BinaryOperator) (type : TypeRef) {left left' right right' : Expr}
      (lefts : Expr.Filled left left') (rights : Expr.Filled right right') :
      Expr.Filled (.binary operator left right type) (.binary operator left' right' type)
  | unary (operator : UnaryOperator) (type : TypeRef) {operand operand' : Option Expr}
      (operands : Option.Rel Expr.Filled operand operand') :
      Expr.Filled (.unary operator operand type) (.unary operator operand' type)
  | lambda (parameters : List Parameter) (type : TypeRef) {body body' : Expr}
      (bodies : Expr.Filled body body') :
      Expr.Filled (.lambda parameters body type) (.lambda parameters body' type)
  | memberAccess (member : Member) (type : TypeRef) {owner owner' : Option Expr}
      (owners : Option.Rel Expr.Filled owner owner') :
      Expr.Filled (.memberAccess owner member type) (.memberAccess owner' member type)
  | newObject {new new' : NewObject} (news : NewObject.Filled new new') :
      Expr.Filled (.newObject new) (.newObject new')
  | call (method : Method) (type : TypeRef) {target target' : Option Expr}
      {arguments arguments' : List Expr} (targets : Option.Rel Expr.Filled target target')
      (filled : List.Forall₂ Expr.Filled arguments arguments') :
      Expr.Filled (.call target method arguments type) (.call target' method arguments' type)
  | memberInit {new new' : NewObject} {bindings bindings' : List Binding}
      (news : NewObject.Filled new new')
      (filled : List.Forall₂ Binding.Filled bindings bindings') :
      Expr.Filled (.memberInit new bindings) (.memberInit new' bindings')
  | listInit {new new' : NewObject} {initializers initializers' : List ElementInit}
      (news : NewObject.Filled new new')
      (filled : List.Forall₂ ElementInit.Filled initializers initializers') :
      Expr.Filled (.listInit new initializers) (.listInit new' initializers')
  | newArray (kind : ArrayKind) (type : TypeRef) {items items' : List Expr}
      (filled : List.Forall₂ Expr.Filled items items') :
      Expr.Filled (.newArray kind items type) (.newArray kind items' type)
  | conditional (type : TypeRef) {test test' ifTrue ifTrue' ifFalse ifFalse' : Expr}
      (tests : Expr.Filled test test') (ifTrues : Expr.Filled ifTrue ifTrue')
      (ifFalses : Expr.Filled ifFalse ifFalse') :
      Expr.Filled (.conditional test ifTrue ifFalse type) (.conditional test' ifTrue' ifFalse' type)
  | typeTest (kind : TypeTestKind) (operand type : TypeRef) {subject subject' : Expr}
      (subjects : Expr.Filled subject subject') :
      Expr.Filled (.typeTest kind subject operand type) (.typeTest kind subject' operand type)
  | invocation (type : TypeRef) {function function' : Expr} {arguments arguments' : List Expr}
      (functions : Expr.Filled function function')
      (filled : List.Forall₂ Expr.Filled arguments arguments') :
      Expr.Filled (.invocation function arguments type) (.invocation function' arguments' type)
  | index (type : TypeRef) {object object' : Expr} {arguments arguments' : List Expr}
      (objects : Expr.Filled object object')
      (filled : List.Forall₂ Expr.Filled arguments arguments') :
      Expr.Filled (.index object arguments type) (.index object' arguments' type)
  | block (locals : List Parameter) (type : TypeRef) {expressions expressions' : List Expr}
      (filled : List.Forall₂ Expr.Filled expressions expressions') :
      Expr.Filled (.block locals expressions type) (.block locals expressions' type)
  | switch (type : TypeRef) {subject subject' : Expr} {cases cases' : List SwitchCase}
      {defaultBody defaultBody' : Option Expr} (subjects : Expr.Filled subject subject')
      (filled : List.Forall₂ SwitchCase.Filled cases cases')
      (defaultBodies : Option.Rel Expr.Filled defaultBody defaultBody') :
      Expr.Filled (.switch subject cases defaultBody type)
        (.switch subject' cases' defaultBody' type)
  | tryCatch (type : TypeRef) {body body' : Expr} {handlers handlers' : List CatchBlock}
      {fault fault' finalizer finalizer' : Option Expr} (bodies : Expr.Filled body body')
      (filled : List.Forall₂ CatchBlock.Filled handlers handlers')
      (faults : Option.Rel Expr.Filled fault fault')
      (finalizers : Option.Rel Expr.Filled finalizer finalizer') :
      Expr.Filled (.tryCatch body handlers fault finalizer type)
        (.tryCatch body' handlers' fault' finalizer' type)
  | goto (kind : GotoKind) (target : Option LabelTarget) (type : TypeRef)
      {value value' : Option Expr} (values : Option.Rel Expr.Filled value value') :
      Expr.Filled (.goto kind target value type) (.goto kind target value' type)
  | loop (type : TypeRef) {body body' : Expr} (bodies : Expr.Filled body body') :
      Expr.Filled (.loop body type) (.loop body' type)
  | late (operation : LateOperation) (type : TypeRef) {arguments arguments' : List Expr}
      (filled : List.Forall₂ Expr.Filled arguments arguments') :
      Expr.Filled (.late operation arguments type) (.late operation arguments' type)

/-- The same for a constructor call. -/
inductive NewObject.Filled : NewObject → NewObject → Prop where
  | mk (members : List String) (type : TypeRef) {arguments arguments' : List Expr}
      (filled : List.Forall₂ Expr.Filled arguments arguments') :
      NewObject.Filled (.mk arguments members type) (.mk arguments' members type)

/-- The same for a binding. -/
inductive Binding.Filled : Binding → Binding → Prop where
  | assignment (member : String) {value value' : Expr} (values : Expr.Filled value value') :
      Binding.Filled (.assignment member value) (.assignment member value')
  | nested (member : String) {bindings bindings' : List Binding}
      (filled : List.Forall₂ Binding.Filled bindings bindings') :
      Binding.Filled (.nested member bindings) (.nested member bindings')
  | list (member : String) {initializers initializers' : List ElementInit}
      (filled : List.Forall₂ ElementInit.Filled initializers initializers') :
      Binding.Filled (.list member initializers) (.list member initializers')

/-- The same for the arguments for one item. -/
inductive ElementInit.Filled : ElementInit → ElementInit → Prop where
  | mk {arguments arguments' : List Expr}
      (filled : List.Forall₂ Expr.Filled arguments arguments') :
      ElementInit.Filled (.mk arguments) (.mk arguments')

/-- The same for a case. -/
inductive SwitchCase.Filled : SwitchCase → SwitchCase → Prop where
  | mk {testValues testValues' : List Expr} {body body' : Expr}
      (filled : List.Forall₂ Expr.Filled testValues testValues')
      (bodies : Expr.Filled body body') :
      SwitchCase.Filled (.mk testValues body) (.mk testValues' body')

/-- The same for a handler. -/
inductive CatchBlock.Filled : CatchBlock → CatchBlock → Prop where
  | mk (test : TypeRef) (exception : Option Parameter) {filter filter' : Option Expr}
      {body body' : Expr} (filters : Option.Rel Expr.Filled filter filter')
      (bodies : Expr.Filled body body') :
      CatchBlock.Filled (.mk test exception filter body) (.mk test exception filter' body')

end

namespace Expr

/-! ## Values that stay -/

/-- Whether the value of an expression, if it is known, is the same whatever is put in. -/
def KeepsValue (expr : Expr) : Prop :=
  ∀ filled value, Filled expr filled → expr.staticValue? = some value →
    filled.staticValue? = some value

theorem keepsValue_of_unknown {expr : Expr} (unknown : expr.staticValue? = none) :
    expr.KeepsValue := by
  intro filled value _ known
  rw [unknown] at known
  cases known

theorem keepsValue_constant (value : Json) (type : TypeRef) :
    (Expr.constant value type).KeepsValue := by
  rintro filled _ ⟨⟩ known
  exact known

theorem keepsValue_captured (name : String) (value : Json) (type : TypeRef) :
    (Expr.captured name value type).KeepsValue := by
  rintro filled _ ⟨⟩ known
  exact known

theorem keepsValue_memberAccess {owner : Option Expr} (keeps : ∀ expr ∈ owner, expr.KeepsValue)
    (member : Member) (type : TypeRef) : (Expr.memberAccess owner member type).KeepsValue := by
  intro filled value fills known
  cases fills with
  | kept => exact known
  | memberAccess _ _ owners =>
      cases owners with
      | none => exact known
      | @some owner owner' fills =>
          rw [staticValue?_memberAccess, memberValue?_some, Option.bind_eq_some_iff] at known ⊢
          obtain ⟨ownerValue, ownerKnown, found⟩ := known
          exact ⟨ownerValue, keeps owner rfl _ _ fills ownerKnown, found⟩

theorem keepsValue_unary {operand : Option Expr} (keeps : ∀ expr ∈ operand, expr.KeepsValue)
    (operator : UnaryOperator) (type : TypeRef) :
    (Expr.unary operator operand type).KeepsValue := by
  intro filled value fills known
  cases fills with
  | kept => exact known
  | unary _ _ operands =>
      cases operands with
      | none => exact known
      | @some operand operand' fills =>
          obtain ⟨conversion, operandKnown⟩ := (Option.ite_none_right_eq_some ..).mp known
          exact (if_pos conversion).trans (keeps operand rfl _ _ fills operandKnown)

/-- The text of expressions that keep their values stays. -/
theorem joinedTexts?_filled {exprs filled : List Expr} (keeps : ∀ expr ∈ exprs, expr.KeepsValue)
    (fills : List.Forall₂ Filled exprs filled) {text : String}
    (known : joinedTexts? exprs = some text) : joinedTexts? filled = some text := by
  induction fills generalizing text with
  | nil => exact known
  | @cons expr expr' exprs exprs' first _ ih =>
      obtain ⟨own, others⟩ := List.forall_mem_cons.mp keeps
      rw [joinedTexts?] at known ⊢
      split at known
      · rename_i value rest valueKnown restKnown
        rw [own _ _ first valueKnown, ih others restKnown]
        exact known
      · cases known

theorem keepsValue_binary {left right : Expr} (lefts : left.KeepsValue) (rights : right.KeepsValue)
    (operator : BinaryOperator) (type : TypeRef) :
    (Expr.binary operator left right type).KeepsValue := by
  intro filled value fills known
  cases fills with
  | kept => exact known
  | @binary _ _ _ left' _ right' leftFills rightFills =>
      rw [staticValue?_binary, Option.ite_none_right_eq_some, Option.map_eq_some_iff] at known ⊢
      obtain ⟨joins, text, texts, rfl⟩ := known
      have keeps : ∀ expr ∈ [left, right], expr.KeepsValue := by
        simpa using ⟨lefts, rights⟩
      exact ⟨joins, text, joinedTexts?_filled keeps (.cons leftFills (.cons rightFills .nil)) texts,
        rfl⟩

/-- What a call joins is filled like its arguments: only in place of a reference could there be an
array that has not been one, and a reference has no value. -/
theorem joinedItems_filled {arguments filled : List Expr}
    (fills : List.Forall₂ Filled arguments filled) {text : String}
    (known : joinedTexts? (joinedItems arguments) = some text) :
    List.Forall₂ Filled (joinedItems arguments) (joinedItems filled) := by
  cases fills with
  | nil => exact .nil
  | @cons expr expr' exprs exprs' first others =>
      cases others with
      | cons second others =>
          simp only [joinedItems]
          exact .cons first (.cons second others)
      | nil =>
          have single : List.Forall₂ Filled [expr] [expr'] := .cons first .nil
          cases first with
          | reference parameter filler =>
              simp [joinedItems, joinedTexts?, staticValue?] at known
          | kept => exact List.forall₂_same.mpr fun item _ => .kept item
          | newArray kind type items =>
              cases kind with
              | init => exact items
              | bounds => exact single
          | _ => exact single

theorem keepsValue_call {arguments : List Expr}
    (keeps : ∀ expr ∈ joinedItems arguments, expr.KeepsValue) (target : Option Expr)
    (method : Method) (type : TypeRef) :
    (Expr.call target method arguments type).KeepsValue := by
  intro filled value fills known
  cases fills with
  | kept => exact known
  | call _ _ _ argumentFills =>
      rw [staticValue?_call, Option.ite_none_right_eq_some, Option.map_eq_some_iff] at known ⊢
      obtain ⟨joins, text, texts, rfl⟩ := known
      exact ⟨joins, text,
        joinedTexts?_filled keeps (joinedItems_filled argumentFills texts) texts, rfl⟩

/-- Only the branch that is taken has to keep its value. -/
theorem keepsValue_conditional {test ifTrue ifFalse : Expr} (tests : test.KeepsValue)
    (ifTrues : ifTrue.KeepsValue) (ifFalses : ifFalse.KeepsValue) (type : TypeRef) :
    (Expr.conditional test ifTrue ifFalse type).KeepsValue := by
  intro filled value fills known
  cases fills with
  | kept => exact known
  | conditional _ testFills trueFills falseFills =>
      simp only [staticValue?_conditional, Option.bind_eq_some_iff] at known ⊢
      obtain ⟨holds, ⟨testValue, testKnown, holds_eq⟩, branchKnown⟩ := known
      refine ⟨holds, ⟨testValue, tests _ _ testFills testKnown, holds_eq⟩, ?_⟩
      cases holds with
      | true => exact ifTrues _ _ trueFills branchKnown
      | false => exact ifFalses _ _ falseFills branchKnown

mutual

/-- Every expression keeps its value. -/
theorem keepsValue : (expr : Expr) → expr.KeepsValue
  | .constant value type => keepsValue_constant value type
  | .captured name value type => keepsValue_captured name value type
  | .memberAccess none member type => keepsValue_memberAccess (by simp) member type
  | .memberAccess (some owner) member type =>
    keepsValue_memberAccess (fun _ own => Option.mem_some.mp own ▸ owner.keepsValue) member type
  | .unary operator none type => keepsValue_unary (by simp) operator type
  | .unary operator (some operand) type =>
    keepsValue_unary (fun _ own => Option.mem_some.mp own ▸ operand.keepsValue) operator type
  | .binary operator left right type =>
    keepsValue_binary left.keepsValue right.keepsValue operator type
  | .call target method arguments type =>
    -- the recursion is not structural: the items of an array are joined in its place
    have smaller := sizeOf_joinedItems_le arguments
    keepsValue_call (keepsValues (joinedItems arguments)) target method type
  | .conditional test ifTrue ifFalse type =>
    keepsValue_conditional test.keepsValue ifTrue.keepsValue ifFalse.keepsValue type
  | .lambda .. | .parameter _ | .newObject _ | .memberInit .. | .listInit .. | .newArray ..
  | .defaultValue _ | .typeTest .. | .invocation .. | .index .. | .block .. | .switch ..
  | .tryCatch .. | .label .. | .goto .. | .loop .. | .variablesGroup .. | .debugMarker ..
  | .late .. => keepsValue_of_unknown rfl
termination_by expr => sizeOf expr

theorem keepsValues : (exprs : List Expr) → ∀ expr ∈ exprs, expr.KeepsValue
  | [] => by simp
  | expr :: exprs => List.forall_mem_cons.mpr ⟨expr.keepsValue, keepsValues exprs⟩
termination_by exprs => sizeOf exprs

end

end Expr

/-- A value that is known before the query runs does not depend on the query: it stays the same
whatever is put in place of references to parameters. -/
theorem known_value_of_filled {expr filled : Expr} {value : Json} (fills : expr.Filled filled)
    (known : expr.staticValue? = some value) : filled.staticValue? = some value :=
  expr.keepsValue filled value fills known

/-- A greeting by a captured name, or by another one if that is asked for. -/
def Expr.greeting (other : Expr) : Expr :=
  let options : Expr :=
    .captured "options" (.object [("captured", .bool true)]) (.named "Options")
  .staticCall .string "Concat"
    [.arrayOfItems .string
      [.stringConstant "Hello ",
        .conditional (.memberOf options "captured" .boolean)
          (.captured "name" (.string "Ann") .string) other .string]]
    .string

theorem Expr.filled_greeting {other filled : Expr} (fills : other.Filled filled) :
    (greeting other).Filled (greeting filled) :=
  .call _ _ .none (.cons (.newArray .init _
    (.cons (.kept _) (.cons (.conditional _ (.kept _) (.kept _) fills) .nil))) .nil)

/-- The name of the user is not asked for, so that anything may be put in place of the user. -/
theorem known_value_of_filled_greeting :
    let user : Parameter := ⟨"user", .named "User"⟩
    let asked := Expr.memberOf (.parameter user) "Name" .string
    let answered := Expr.memberOf (.arrayOfItems .string []) "Name" .string
    (Expr.greeting asked).Filled (.greeting answered) ∧
      (Expr.greeting asked).staticValue? = some (.string "Hello Ann") ∧
      (Expr.greeting answered).staticValue? = some (.string "Hello Ann") := by
  intro user asked answered
  have fills : (Expr.greeting asked).Filled (.greeting answered) :=
    Expr.filled_greeting (.memberAccess _ _ (.some (.reference user _)))
  have known : (Expr.greeting asked).staticValue? = some (.string "Hello Ann") := rfl
  exact ⟨fills, known, known_value_of_filled fills known⟩

end AqlPipeline
