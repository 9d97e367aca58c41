import AqlPipeline.Proofs.Expr.HiddenChange

/-!
# Operators and objects with a hidden change

Each form of expression is written alike before and after a hidden change of right operands if its
parts are.  Here are operators, members, objects, collections and arrays.
-/

namespace AqlPipeline

open Script

/-! ## Parts -/

/-- Two parts that are written alike, the second of them with the change. -/
structure Part.Alike {like : Likeness} {dialect : Dialect} (change : HiddenChange like dialect)
    (part other : Part) : Prop where
  /-- The second part has the change. -/
  expr_eq : other.expr = part.expr.onRight change.apply
  /-- The parts are written alike wherever they stand. -/
  scripts : ∀ placement, Script.Alike like (part.scriptAt placement) (other.scriptAt placement)

variable {like : Likeness} {dialect : Dialect} {change : HiddenChange like dialect}

namespace Part.Alike

theorem visitAs {part other : Part} (alike : Part.Alike change part other) (segment : String)
    (placement : Placement) :
    Script.Alike like (part.visitAs segment placement) (other.visitAs segment placement) :=
  .enter segment (alike.scripts placement)

theorem visit {part other : Part} (alike : Part.Alike change part other) (segment : String) :
    Script.Alike like (part.visit segment) (other.visit segment) :=
  .enter segment (alike.scripts {})

theorem list_scripts {parts others : List Part}
    (alike : List.Forall₂ (Part.Alike change) parts others) :
    List.Forall₂ (Script.Alike like) (parts.map Part.script) (others.map Part.script) := by
  induction alike with
  | nil => exact .nil
  | cons first _ ih => exact .cons (first.scripts {}) ih

theorem inLine (base : String) {parts others : List Part}
    (alike : List.Forall₂ (Part.Alike change) parts others) :
    Script.Alike like (Part.inLine base parts) (Part.inLine base others) :=
  .inLine base ", " (list_scripts alike)

theorem keys (index : Nat) {parts others : List Part}
    (alike : List.Forall₂ (Part.Alike change) parts others) :
    List.Forall₂ (Script.Alike like) (Render.keys index parts) (Render.keys index others) :=
  Script.Alike.visits "Arguments" index (list_scripts alike)

end Part.Alike

namespace Render

/-! ## Operators -/

/-- The right operand of an operator with a symbol, by what is asked about it. -/
theorem rightOperand_eq (operator : BinaryOperator) (segment : String) (right : Part) :
    rightOperand operator segment right =
      if right.expr.type.isString then
        match right.expr.staticValue? with
        | some value => bindLiteral value
        | none =>
          if right.expr.isMember || right.expr.mentionsParameter then right.visit segment
          else
            .fail (.notSupported "a string operand that cannot be evaluated before the query runs")
      else
        match right.expr.constant? with
        | some value => if operator.isComparison then bindLiteral value else right.visit segment
        | none => right.visit segment := by
  obtain ⟨expr, scriptAt⟩ := right
  unfold rightOperand
  cases expr <;> rfl

theorem rightOperand_alike (operator : BinaryOperator) (segment : String) {right right' : Part}
    (rights : Part.Alike change right right') :
    Script.Alike like (rightOperand operator segment right)
      (rightOperand operator segment right') := by
  have visited := rights.visit segment
  have values := Likeness.values_of_known (right.expr.staticValue?_onRight change)
  rw [rightOperand_eq, rightOperand_eq, rights.expr_eq, Expr.type_onRight, Expr.isMember_onRight,
    Expr.mentionsParameter_onRight, Expr.constant?_onRight]
  generalize right.expr.staticValue? = value, (right.expr.onRight _).staticValue? = value' at values
  split
  · cases values with
    | some values => exact .bindLiteral values
    | none =>
        dsimp only
        split
        · exact visited
        · exact .fail _
  · split
    · split
      · exact .bindLiteral (like.equivalence.refl _)
      · exact visited
    · exact visited

theorem power_alike (leftSegment rightSegment : String) {left left' right right' : Part}
    (lefts : Part.Alike change left left') (rights : Part.Alike change right right') :
    Script.Alike like (power leftSegment left rightSegment right)
      (power leftSegment left' rightSegment right') :=
  ((((Script.Alike.write _).append (lefts.visit _)).append (.write _)).append
    (rights.visit _)).append (.write _)

/-- An operator is written alike if the change is also made to its right operand. -/
theorem binary_alike (operator : BinaryOperator) (leftSegment rightSegment : String)
    {left left' right : Part} {expr : Expr} (lefts : Part.Alike change left left')
    (rights : Part.Alike change right ⟨expr, expr.script dialect⟩) :
    Script.Alike like (binary operator leftSegment left rightSegment right)
      (binary operator leftSegment left' rightSegment
        ⟨change.apply operator expr, (change.apply operator expr).script dialect⟩) := by
  cases symbol : operator.symbol? with
  | some text =>
      simp only [binary, symbol]
      refine ((lefts.visit leftSegment).append (.write _)).append ?_
      have operands := rightOperand_alike operator rightSegment rights
      -- the operand has changed inside and then, unless it is left as it is, as a whole
      rcases change.written operator expr with same | written
      · rw [same]
        exact operands
      · exact operands.trans (written rightSegment)
  | none =>
      rw [change.symbolless operator expr symbol]
      cases operator with
      | power => exact power_alike leftSegment rightSegment lefts rights
      | powerAssign =>
          exact ((lefts.visit _).append (.write _)).append
            (power_alike leftSegment rightSegment lefts rights)
      | arrayIndex =>
          exact (((lefts.visit _).append (.write _)).append (rights.visit _)).append (.write _)
      | _ => cases symbol

theorem unary_alike (operator : UnaryOperator) (segment : String) {operand operand' : Part}
    (type : TypeRef) (operands : Part.Alike change operand operand') :
    Script.Alike like (unary dialect operator segment operand type)
      (unary dialect operator segment operand' type) := by
  have visited := operands.visit segment
  have type_eq : operand'.expr.type = operand.expr.type := by
    rw [operands.expr_eq, Expr.type_onRight]
  have converted : Script.Alike like
      (if type.isAssignableFrom operand.expr.type then operand.visit segment
        else write ("(" ++ dialect.typeName type ++ ")") ++ operand.visit segment)
      (if type.isAssignableFrom operand.expr.type then operand'.visit segment
        else write ("(" ++ dialect.typeName type ++ ")") ++ operand'.visit segment) := by
    split
    · exact visited
    · exact (Script.Alike.write _).append visited
  simp only [unary, type_eq]
  cases operator with
  | convert | convertChecked | unbox => exact converted
  | isTrue => exact visited
  | arrayLength | typeAs | postIncrementAssign | postDecrementAssign | increment | decrement =>
      exact visited.append (.write _)
  | quote => exact .plain _ rfl ((Script.Alike.openLines.append visited).append .dedent)
  | _ => exact (Script.Alike.write _).append visited

theorem bare_alike (operator : UnaryOperator) :
    Script.Alike like (bare operator) (bare operator) := by
  cases operator with
  | throw => exact .write _
  | _ => exact .fail _

/-! ## Members, objects and collections -/

/-- A member is bound alike if it has the same value. -/
theorem reference_alike (change : HiddenChange like dialect) {owner owner' : Option Expr}
    {member : Member} (named : like.names member.name) (type : TypeRef)
    (value_eq : Expr.memberValue? owner member = Expr.memberValue? owner' member) :
    Script.Alike like (reference dialect owner member type)
      (reference dialect owner' member type) := by
  simp only [reference, change.captured, Dialect.resolveCaptured, value_eq]
  cases Expr.memberValue? owner' member with
  | none => exact .fail _
  | some value => exact .bindNamed named value

theorem memberAccess_alike {owner owner' : Option Part} {member : Member}
    (named : like.names member.name) (type : TypeRef)
    (owners : Option.Rel (Part.Alike change) owner owner') :
    Script.Alike like (memberAccess dialect owner member type)
      (memberAccess dialect owner' member type) := by
  cases owners with
  | none => exact reference_alike change named type rfl
  | @some owner owner' owners =>
      simp only [memberAccess, owners.expr_eq, holdsCaptures_onRight]
      split
      · exact reference_alike change named type
          (Expr.memberValue?_eq_of_known member (owner.expr.staticValue?_onRight change))
      · exact (owners.visit _).append (.write _)

theorem constructed_alike {arguments arguments' : List Part}
    (alike : List.Forall₂ (Part.Alike change) arguments arguments') :
    Script.Alike like (constructed arguments) (constructed arguments') :=
  ((Script.Alike.write _).append (Part.Alike.inLine _ alike)).append (.write _)

theorem namedArguments_alike (index : Nat) (members : List String)
    {arguments arguments' : List Part}
    (alike : List.Forall₂ (Part.Alike change) arguments arguments') :
    List.Forall₂ (Script.Alike like) (namedArguments index members arguments)
      (namedArguments index members arguments') := by
  induction alike generalizing index members with
  | nil => cases members <;> exact .nil
  | cons first _ ih =>
      cases members with
      | nil => exact .nil
      | cons member members =>
          simp only [namedArguments, first.expr_eq, Expr.memberName?_onRight]
          refine .cons ?_ (ih (index + 1) members)
          split
          · exact first.visit _
          · exact (Script.Alike.write _).append (first.visit _)

theorem newObject_alike (members : List String) (type : TypeRef) {arguments arguments' : List Part}
    (alike : List.Forall₂ (Part.Alike change) arguments arguments') :
    Script.Alike like (newObject arguments members type) (newObject arguments' members type) := by
  refine .plain _ rfl ?_
  rw [alike.length_eq]
  split
  · exact constructed_alike alike
  · split
    · exact .fail _
    · exact ((((Script.Alike.write _).append .openLines).append
        (.join (.delimit _) (namedArguments_alike 0 members alike))).append .closeLines).append
          (.write _)

theorem braced_alike (base : String) {items items' : List Script}
    (alike : List.Forall₂ (Script.Alike like) items items') :
    Script.Alike like (braced base items) (braced base items') := by
  refine ((Script.Alike.write _).append ?_).append (.write _)
  cases alike with
  | nil => exact .done
  | cons first others =>
      exact (Script.Alike.openLines.append (.onLines base ", " (.cons first others))).append
        .closeLines

theorem memberInit_alike (new : NewObject) {constructor constructor' : Script}
    {bindings bindings' : List Script} (constructors : Script.Alike like constructor constructor')
    (alike : List.Forall₂ (Script.Alike like) bindings bindings') :
    Script.Alike like (memberInit new constructor bindings)
      (memberInit (new.onRight change.apply) constructor' bindings') := by
  have arguments_eq : (new.onRight change.apply).arguments.isEmpty = new.arguments.isEmpty := by
    cases new with
    | mk arguments => cases arguments <;> rfl
  have bindings_eq : bindings'.isEmpty = bindings.isEmpty := by
    cases alike <;> rfl
  unfold memberInit
  rw [NewObject.type_onRight, arguments_eq, bindings_eq]
  refine .plain _ rfl ?_
  split
  · exact braced_alike _ alike
  · exact .enter _ constructors
  · exact ((constructors.enter _).append (.write _)).append (braced_alike _ alike)

theorem assigned_alike (member : String) {value value' : Script}
    (values : Script.Alike like value value') :
    Script.Alike like (assigned member value) (assigned member value') :=
  (Script.Alike.write _).append values

theorem elementInit_alike {arguments arguments' : List Part}
    (alike : List.Forall₂ (Part.Alike change) arguments arguments') :
    Script.Alike like (elementInit arguments) (elementInit arguments') := by
  cases alike with
  | nil => exact .fail _
  | cons first others =>
      cases others with
      | nil => exact first.visit _
      | cons second others =>
          exact braced_alike _ (Part.Alike.list_scripts (.cons first (.cons second others)))

theorem listInit_alike {initializers initializers' : List Script}
    (alike : List.Forall₂ (Script.Alike like) initializers initializers') :
    Script.Alike like (listInit initializers) (listInit initializers') :=
  ((Script.Alike.write _).append (.inLine _ _ alike)).append (.write _)

theorem newArray_alike (kind : ArrayKind) (type : TypeRef) {items items' : List Part}
    (alike : List.Forall₂ (Part.Alike change) items items') :
    Script.Alike like (newArray dialect kind items type) (newArray dialect kind items' type) := by
  have listed := Part.Alike.inLine "Expressions" alike
  unfold newArray
  rw [alike.length_eq]
  split
  · exact ((Script.Alike.write _).append listed).append (.write _)
  · split
    · exact .fail _
    · split
      · exact .fail _
      · exact ((Script.Alike.write _).append listed).append (.write _)

theorem element_alike (segment : String) {object object' : Part} {keys keys' : List Script}
    (objects : Part.Alike change object object')
    (alike : List.Forall₂ (Script.Alike like) keys keys') :
    Script.Alike like (element segment object keys) (element segment object' keys') :=
  (((objects.visit segment).append (.write _)).append (.join (.write _) alike)).append (.write _)

theorem typeTest_alike (kind : TypeTestKind) (operand : TypeRef) {subject subject' : Part}
    (subjects : Part.Alike change subject subject') :
    Script.Alike like (typeTest dialect kind subject operand)
      (typeTest dialect kind subject' operand) := by
  refine (subjects.visit _).append ?_
  cases kind <;> exact .write _

theorem invocation_alike {function function' : Part} {arguments arguments' : List Part}
    (functions : Part.Alike change function function')
    (alike : List.Forall₂ (Part.Alike change) arguments arguments') :
    Script.Alike like (invocation function arguments) (invocation function' arguments') := by
  have visited := functions.visit "Expression"
  have listed := Part.Alike.inLine "Arguments" alike
  refine (Script.Alike.append ?_ (.write _) |>.append listed).append (.write _)
  rw [functions.expr_eq]
  cases function.expr with
  | lambda => exact ((Script.Alike.write _).append visited).append (.write _)
  | _ => exact visited

end Render

end AqlPipeline
