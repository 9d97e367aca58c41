import AqlPipeline.Proofs.Render.Alike
import AqlPipeline.Proofs.Script.Uniform
import AqlPipeline.Render.Call
import AqlPipeline.Render.Late

/-!
# Operators, objects and calls with a parameter renamed

Each form of expression is written uniformly in the name of a parameter if its parts are.  What is
asked about a part before it is written does not depend on the name.
-/

namespace AqlPipeline.Render

open Script

variable {old : String}

/-! ## Operators -/

theorem rightOperand_uniform (operator : BinaryOperator) (segment : String) {right : String → Part}
    (rights : Part.Uniform old right) :
    Script.Uniform fun name => rightOperand operator segment (right name) := by
  have visited := rights.visit segment
  obtain ⟨expr, expr_eq⟩ := rights.renamed
  simp only [rightOperand_eq, expr_eq, Expr.type_renamed, Expr.staticValue?_renamed,
    Expr.isMember_renamed, Expr.mentionsParameter_renamed, Expr.constant?_renamed]
  refine .ite (fun _ => ?_) fun _ => ?_
  · cases expr.staticValue? with
    | some value => exact .const _
    | none => exact .ite (fun _ => visited) fun _ => .fail _
  · cases expr.constant? with
    | some value => exact .ite (fun _ => .const _) fun _ => visited
    | none => exact visited

theorem power_uniform (leftSegment rightSegment : String) {left right : String → Part}
    (lefts : Part.Uniform old left) (rights : Part.Uniform old right) :
    Script.Uniform fun name => power leftSegment (left name) rightSegment (right name) :=
  ((((Uniform.write _).append (lefts.visit _)).append (.write _)).append
    (rights.visit _)).append (.write _)

theorem binary_uniform (operator : BinaryOperator) (leftSegment rightSegment : String)
    {left right : String → Part} (lefts : Part.Uniform old left)
    (rights : Part.Uniform old right) :
    Script.Uniform fun name =>
      binary operator leftSegment (left name) rightSegment (right name) := by
  have raised := power_uniform leftSegment rightSegment lefts rights
  unfold binary
  cases operator.symbol? with
  | some symbol =>
      exact ((lefts.visit _).append (.write _)).append (rightOperand_uniform operator _ rights)
  | none =>
      cases operator with
      | arrayIndex =>
          exact (((lefts.visit _).append (.write _)).append (rights.visit _)).append (.write _)
      | powerAssign => exact ((lefts.visit _).append (.write _)).append raised
      | _ => exact raised

theorem unary_uniform (dialect : Dialect) (operator : UnaryOperator) (segment : String)
    {operand : String → Part} (type : TypeRef) (operands : Part.Uniform old operand) :
    Script.Uniform fun name => unary dialect operator segment (operand name) type := by
  have visited := operands.visit segment
  obtain ⟨expr, expr_eq⟩ := operands.renamed
  simp only [unary, expr_eq, Expr.type_renamed]
  cases operator with
  | convert | convertChecked | unbox =>
      exact .ite (fun _ => visited) fun _ => (Uniform.write _).append visited
  | isTrue => exact visited
  | arrayLength | typeAs | postIncrementAssign | postDecrementAssign | increment | decrement =>
      exact visited.append (.write _)
  | quote => exact .step _ (((Uniform.const openLines).append visited).append (.const dedent))
  | _ => exact (Uniform.write _).append visited

/-! ## Members, objects and collections -/

theorem memberAccess_uniform {owner : String → Option Part} (member : Member) (type : TypeRef)
    (owners : IfAny (Part.Uniform old) owner) :
    Script.Uniform fun name => memberAccess .aql (owner name) member type := by
  cases owners with
  | none => exact .const _
  | some owners =>
      have visited := owners.visit "Expression"
      obtain ⟨expr, expr_eq⟩ := owners.renamed
      -- the value of a member is told by that of its owner
      have reference_eq : ∀ name, reference .aql (some (expr.renamed old name)) member type =
          reference .aql (some expr) member type := by
        intro name
        simp only [reference, Dialect.aql, Dialect.resolveCaptured, Expr.memberValue?_some,
          Expr.staticValue?_renamed]
      simp only [memberAccess, expr_eq, holdsCaptures_renamed, reference_eq]
      exact .ite (fun _ => .const _) fun _ => visited.append (.write _)

theorem constructed_uniform {arguments : String → List Part}
    (each : Each (Part.Uniform old) arguments) :
    Script.Uniform fun name => constructed (arguments name) :=
  ((Uniform.write _).append (Part.Uniform.inLine _ each)).append (.write _)

theorem namedArguments_uniform (index : Nat) (members : List String)
    {arguments : String → List Part} (each : Each (Part.Uniform old) arguments) :
    Each Script.Uniform fun name => namedArguments index members (arguments name) := by
  induction each generalizing index members with
  | nil => cases members <;> exact .nil
  | cons first _ ih =>
      cases members with
      | nil => exact .nil
      | cons member members =>
          have visited := first.visit (numbered "Arguments" index)
          obtain ⟨expr, expr_eq⟩ := first.renamed
          simp only [namedArguments, expr_eq, Expr.memberName?_renamed]
          exact .cons (.ite (fun _ => visited) fun _ => (Uniform.write _).append visited)
            (ih (index + 1) members)

theorem newObject_uniform (members : List String) (type : TypeRef) {arguments : String → List Part}
    (each : Each (Part.Uniform old) arguments) :
    Script.Uniform fun name => newObject (arguments name) members type := by
  have named := Uniform.join (delimit ", ") (namedArguments_uniform 0 members each)
  simp only [newObject, each.length_eq]
  refine .step _ (.ite (fun _ => constructed_uniform each) fun _ => ?_)
  refine .ite (fun _ => .fail _) fun _ => ?_
  exact ((((Uniform.write _).append (.const openLines)).append named).append
    (.const closeLines)).append (.write _)

theorem braced_uniform (base : String) {items : String → List Script}
    (each : Each Script.Uniform items) :
    Script.Uniform fun name => braced base (items name) := by
  simp only [braced, each.isEmpty_eq]
  refine ((Uniform.write _).append (.ite (fun _ => .done) fun _ => ?_)).append (.write _)
  exact ((Uniform.const openLines).append (.onLines base ", " each)).append (.const closeLines)

theorem memberInit_uniform {new : String → NewObject} {constructor : String → Script}
    {bindings : String → List Script} (type_eq : ∀ name, (new name).type = (new "").type)
    (empty_eq : ∀ name, (new name).arguments.isEmpty = (new "").arguments.isEmpty)
    (constructors : Script.Uniform constructor) (each : Each Script.Uniform bindings) :
    Script.Uniform fun name => memberInit (new name) (constructor name) (bindings name) := by
  simp only [memberInit, type_eq, empty_eq, each.isEmpty_eq]
  refine .step _ ?_
  cases (new "").arguments.isEmpty with
  | true => exact braced_uniform _ each
  | false =>
      cases (bindings "").isEmpty with
      | true => exact .enter _ constructors
      | false => exact ((constructors.enter _).append (.write _)).append (braced_uniform _ each)

theorem elementInit_uniform {arguments : String → List Part}
    (each : Each (Part.Uniform old) arguments) :
    Script.Uniform fun name => elementInit (arguments name) := by
  cases each with
  | nil => exact .fail _
  | cons first others =>
      cases others with
      | nil => exact first.visit _
      | cons second others =>
          exact braced_uniform _ (Part.Uniform.list_scripts (.cons first (.cons second others)))

theorem newArray_uniform (dialect : Dialect) (kind : ArrayKind) (type : TypeRef)
    {items : String → List Part} (each : Each (Part.Uniform old) items) :
    Script.Uniform fun name => newArray dialect kind (items name) type := by
  have listed := Part.Uniform.inLine "Expressions" each
  simp only [newArray, each.length_eq]
  cases kind with
  | init => exact ((Uniform.write _).append listed).append (.write _)
  | bounds =>
      cases type.ranks with
      | nil => exact .fail _
      | cons rank inner =>
          exact .ite (fun _ => .fail _) fun _ =>
            ((Uniform.write _).append listed).append (.write _)

theorem keys_uniform (index : Nat) {arguments : String → List Part}
    (each : Each (Part.Uniform old) arguments) :
    Each Script.Uniform fun name => keys index (arguments name) :=
  Uniform.visits "Arguments" index (Part.Uniform.list_scripts each)

theorem element_uniform (segment : String) {object : String → Part} {keys : String → List Script}
    (objects : Part.Uniform old object) (each : Each Script.Uniform keys) :
    Script.Uniform fun name => element segment (object name) (keys name) :=
  (((objects.visit segment).append (.write _)).append (.join _ each)).append (.write _)

theorem typeTest_uniform (dialect : Dialect) (kind : TypeTestKind) (operand : TypeRef)
    {subject : String → Part} (subjects : Part.Uniform old subject) :
    Script.Uniform fun name => typeTest dialect kind (subject name) operand :=
  (subjects.visit _).append (.const _)

theorem invocation_uniform {function : String → Part} {arguments : String → List Part}
    (functions : Part.Uniform old function) (each : Each (Part.Uniform old) arguments) :
    Script.Uniform fun name => invocation (function name) (arguments name) := by
  have visited := functions.visit "Expression"
  have listed := Part.Uniform.inLine "Arguments" each
  obtain ⟨expr, expr_eq⟩ := functions.renamed
  simp only [invocation, expr_eq]
  refine ((Uniform.append ?_ (.write _)).append listed).append (.write _)
  cases expr with
  | lambda => exact ((Uniform.write _).append visited).append (.write _)
  | _ => exact visited

/-! ## Strings -/

theorem isItems_uniform {part : String → Part} (parts : Part.Uniform old part) (name : String) :
    (part name).isItems = (part "").isItems := by
  obtain ⟨expr, expr_eq⟩ := parts.renamed
  simp only [Part.isItems, expr_eq]
  cases expr with
  | newArray kind => cases kind <;> rfl
  | _ => rfl

theorem allStrings_uniform {arguments : String → List Part}
    (each : Each (Part.Uniform old) arguments) (name : String) :
    ((arguments name).all fun argument => argument.expr.type.isString) =
      (arguments "").all fun argument => argument.expr.type.isString := by
  induction each with
  | nil => rfl
  | cons first _ ih =>
      obtain ⟨expr, expr_eq⟩ := first.renamed
      simp only [List.all_cons, expr_eq, Expr.type_renamed, ih]

theorem concatenation?_uniform {arguments : String → List Part}
    {itemsAt : String → Nat → List Script} (each : Each (Part.Uniform old) arguments)
    (items : ∀ index, Each Script.Uniform fun name => itemsAt name index) :
    IfAny Script.Uniform fun name => concatenation? (arguments name) (itemsAt name) := by
  have strings_eq := allStrings_uniform each
  cases each with
  | nil => exact .none
  | @cons first others firsts rests =>
      simp only [concatenation?, isItems_uniform firsts, strings_eq]
      cases (first "").isItems with
      | true => exact .some (.inLine _ _ (items 0))
      | false =>
          cases List.all _ _ with
          | true => exact .some (.inLine _ _ (Part.Uniform.list_scripts (.cons firsts rests)))
          | false => exact .none

theorem constantFormat?_uniform {arguments : String → List Part}
    (each : Each (Part.Uniform old) arguments) (name : String) :
    constantFormat? (arguments name) = constantFormat? (arguments "") := by
  cases each with
  | nil => rfl
  | cons firsts =>
      obtain ⟨expr, expr_eq⟩ := firsts.renamed
      simp only [constantFormat?, expr_eq]
      cases expr <;> rfl

theorem formatItems_uniform {arguments : String → List Part} {itemsAt : String → Nat → List Script}
    (each : Each (Part.Uniform old) arguments)
    (items : ∀ index, Each Script.Uniform fun name => itemsAt name index) :
    Each Script.Uniform fun name => formatItems (arguments name) (itemsAt name) := by
  cases each with
  | nil => exact .nil
  | cons first others =>
      cases others with
      | nil => exact .nil
      | @cons second others seconds others =>
          cases others with
          | nil =>
              simp only [formatItems, isItems_uniform seconds]
              cases (second "").isItems with
              | true => exact Uniform.visits _ _ (items 1)
              | false => exact keys_uniform 1 (.cons seconds .nil)
          | cons third others => exact keys_uniform 1 (.cons seconds (.cons third others))

theorem formatItem_uniform (placeholder : FormatString.Placeholder) {items : String → List Script}
    (each : Each Script.Uniform items) :
    Script.Uniform fun name => formatItem placeholder (items name) := by
  rcases (each.getElem? placeholder.index).none_or_some with missing | ⟨item, uniform, found⟩
  · simp only [formatItem, missing, each.length_eq]
    exact .fail _
  · simp only [formatItem, found]
    exact ((Uniform.write _).append uniform).append (.write _)

theorem formatSegments_uniform {items : String → List Script} (each : Each Script.Uniform items)
    (segments : List FormatString.Segment) :
    Script.Uniform fun name => formatSegments (items name) segments := by
  induction segments with
  | nil => exact .done
  | cons segment segments ih =>
      obtain ⟨literal, placeholder⟩ := segment
      cases placeholder with
      | none => exact .write _
      | some placeholder =>
          exact ((Uniform.write _).append (formatItem_uniform placeholder each)).append ih

theorem interpolated_uniform (format : String) {items : String → List Script}
    (each : Each Script.Uniform items) :
    Script.Uniform fun name => interpolated format (items name) := by
  unfold interpolated
  cases FormatString.parse format with
  | error fault => exact .fail _
  | ok segments =>
      exact ((Uniform.write _).append (formatSegments_uniform each segments)).append (.write _)

/-! ## Calls -/

theorem rowCount_uniform (stage : Stage) {arguments : String → List Part} (use : Int → Script)
    (each : Each (Part.Uniform old) arguments) :
    Script.Uniform fun name => rowCount stage (arguments name) use := by
  cases each with
  | nil => exact .fail _
  | cons firsts =>
      obtain ⟨expr, expr_eq⟩ := firsts.renamed
      simp only [rowCount, expr_eq, Expr.staticValue?_renamed]
      exact .const _

theorem likeClause_uniform {arguments : String → List Part}
    (each : Each (Part.Uniform old) arguments) :
    Script.Uniform fun name => likeClause (arguments name) := by
  cases each with
  | nil => exact .fail _
  | cons firsts =>
      obtain ⟨expr, expr_eq⟩ := firsts.renamed
      simp only [likeClause, expr_eq, Expr.staticValue?_renamed]
      exact .const _

theorem clause_uniform (stage : Stage) {arguments : String → List Part} {visited : String → Script}
    (each : Each (Part.Uniform old) arguments) (visits : Script.Uniform visited) :
    Script.Uniform fun name => clause stage (arguments name) (visited name) := by
  cases stage with
  | filter | select | groupBy => exact (Uniform.write _).append visits
  | orderBy | orderByDescending | thenBy | thenByDescending =>
      exact ((Uniform.write _).append visits).append (.write _)
  | singleOrDefault =>
      simp only [clause, each.isEmpty_eq]
      exact (Uniform.ite (fun _ => .done) fun _ => (Uniform.write _).append visits).append
        (.const _)
  | contains => exact .done
  | startsWith => exact likeClause_uniform each
  | take => exact rowCount_uniform _ _ each
  | skip => exact rowCount_uniform _ _ each

theorem applied_uniform (method : Method) {arguments : String → List Part}
    {visited : String → Script} (each : Each (Part.Uniform old) arguments)
    (visits : Script.Uniform visited) :
    Script.Uniform fun name => applied method (arguments name) (visited name) := by
  unfold applied
  cases Stage.ofName? method.name with
  | some stage => exact clause_uniform stage each visits
  | none => exact ((Uniform.write _).append visits).append (.write _)

theorem received_uniform (method : Method) {receiver : String → Script}
    {arguments : String → List Part} {visited : String → Script}
    (receivers : Script.Uniform receiver) (each : Each (Part.Uniform old) arguments)
    (visits : Script.Uniform visited) :
    Script.Uniform fun name =>
      received method (receiver name) (arguments name) (visited name) := by
  refine Uniform.append ?_ (applied_uniform method each visits)
  cases Stage.ofName? method.name with
  | none => exact receivers
  | some stage =>
      cases stage with
      | contains => exact (visits.append (.write _)).append receivers
      | _ => exact receivers

theorem argumentsFrom_uniform (index : Nat) {arguments : String → List Part}
    (each : Each (Part.Uniform old) arguments) :
    Script.Uniform fun name => argumentsFrom index (arguments name) :=
  .join _ (keys_uniform index each)

theorem plainCall_uniform (dialect : Dialect) (method : Method) {target : String → Option Part}
    {arguments : String → List Part} (targets : IfAny (Part.Uniform old) target)
    (each : Each (Part.Uniform old) arguments) :
    Script.Uniform fun name => plainCall dialect (target name) method (arguments name) := by
  cases targets with
  | some targets =>
      exact received_uniform method (targets.visit _) each (argumentsFrom_uniform 0 each)
  | none =>
      unfold plainCall
      cases method.kind with
      | extension =>
          cases each with
          | nil => exact .fail _
          | cons first others =>
              exact received_uniform method (first.visit _) others (argumentsFrom_uniform 1 others)
      | _ =>
          exact (Uniform.write _).append
            (applied_uniform method each (argumentsFrom_uniform 0 each))

theorem isElementRead_uniform (method : Method) {target : String → Option Part}
    (targets : IfAny (Part.Uniform old) target) (name : String) :
    isElementRead (target name) method = isElementRead (target "") method := by
  cases targets with
  | none => rfl
  | some targets =>
      obtain ⟨expr, expr_eq⟩ := targets.renamed
      simp [isElementRead, expr_eq]

theorem otherCall_uniform (dialect : Dialect) (method : Method) {target : String → Option Part}
    {arguments : String → List Part} {itemsAt : String → Nat → List Script}
    (targets : IfAny (Part.Uniform old) target) (each : Each (Part.Uniform old) arguments)
    (items : ∀ index, Each Script.Uniform fun name => itemsAt name index) :
    Script.Uniform fun name =>
      otherCall dialect (target name) method (arguments name) (itemsAt name) := by
  have plain := plainCall_uniform dialect method targets each
  simp only [otherCall, isElementRead_uniform method targets, constantFormat?_uniform each]
  refine .ite (fun _ => ?_) fun _ => .ite (fun _ => ?_) fun _ => plain
  · cases targets with
    | none => exact .fail _
    | some targets => exact element_uniform _ targets (keys_uniform 0 each)
  · cases constantFormat? (arguments "") with
    | some format => exact interpolated_uniform format (formatItems_uniform each items)
    | none => exact plain

theorem call_uniform (dialect : Dialect) (method : Method) {target : String → Option Part}
    {arguments : String → List Part} {itemsAt : String → Nat → List Script}
    (targets : IfAny (Part.Uniform old) target) (each : Each (Part.Uniform old) arguments)
    (items : ∀ index, Each Script.Uniform fun name => itemsAt name index) :
    Script.Uniform fun name =>
      call dialect (target name) method (arguments name) (itemsAt name) := by
  have other := otherCall_uniform dialect method targets each items
  unfold call
  refine .ite (fun _ => ?_) fun _ => other
  rcases (concatenation?_uniform each items).none_or_some with missing | ⟨joined, uniform, found⟩
  · simpa only [missing] using other
  · simpa only [found] using uniform

/-! ## Operations bound while the query runs -/

theorem miscounted_uniform (operation : LateOperation) (expected : Arity)
    {arguments : String → List Part} (each : Each (Part.Uniform old) arguments) :
    Script.Uniform fun name => miscounted operation expected (arguments name) := by
  simp only [miscounted, each.length_eq]
  exact .fail _

theorem late_uniform (dialect : Dialect) (operation : LateOperation) (type : TypeRef)
    {arguments : String → List Part} (each : Each (Part.Uniform old) arguments) :
    Script.Uniform fun name => late dialect operation (arguments name) type := by
  have miscount := fun expected => miscounted_uniform operation expected each
  cases operation with
  | createInstance => exact constructed_uniform each
  | deleteIndex => exact .fail _
  | deleteMember name => exact .fail _
  | binaryOp operator =>
      cases each with
      | nil => exact miscount _
      | cons left others =>
          cases others with
          | nil => exact miscount _
          | cons right others =>
              cases others with
              | nil => exact binary_uniform operator _ _ left right
              | cons => exact miscount _
  | convert target =>
      cases each with
      | nil => exact miscount _
      | cons operand others =>
          cases others with
          | nil => exact unary_uniform dialect .convert _ target operand
          | cons => exact miscount _
  | unaryOp operator =>
      cases each with
      | nil => exact miscount _
      | cons operand others =>
          cases others with
          | nil => exact unary_uniform dialect operator _ type operand
          | cons => exact miscount _
  | getMember name =>
      cases each with
      | nil => exact miscount _
      | cons receiver others =>
          cases others with
          | nil => exact (receiver.visit _).append (.write _)
          | cons => exact miscount _
  | getIndex =>
      cases each with
      | nil => exact miscount _
      | cons receiver others =>
          cases others with
          | nil => exact miscount _
          | cons key others => exact element_uniform _ receiver (keys_uniform 1 (.cons key others))
  | invoke =>
      cases each with
      | nil => exact miscount _
      | cons receiver others =>
          exact (((receiver.visit _).append (.write _)).append
            (argumentsFrom_uniform 1 others)).append (.write _)
  | invokeMember name =>
      cases each with
      | nil => exact miscount _
      | cons receiver others =>
          exact (((receiver.visit _).append (.write _)).append
            (argumentsFrom_uniform 1 others)).append (.write _)
  | setIndex =>
      cases each with
      | nil => exact miscount _
      | cons receiver others =>
          cases others with
          | nil => exact miscount _
          | cons value others =>
              cases others with
              | nil => exact miscount _
              | cons key others =>
                  exact ((element_uniform _ receiver (keys_uniform 2 (.cons key others))).append
                    (.write _)).append (value.visit _)
  | setMember name =>
      cases each with
      | nil => exact miscount _
      | cons receiver others =>
          cases others with
          | nil => exact miscount _
          | cons value others =>
              cases others with
              | nil => exact ((receiver.visit _).append (.write _)).append (value.visit _)
              | cons => exact miscount _

end AqlPipeline.Render
