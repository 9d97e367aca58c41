import AqlPipeline.Proofs.Script.Places
import AqlPipeline.Render.Call
import AqlPipeline.Render.Late

/-!
# Places of operators, objects and calls

The parts of each form of expression, and where they are visited.  The items of a format string may
be visited more than once, each at its own place.
-/

namespace AqlPipeline.Render

open Script

variable {skips : Prop} {placed : String → Script → Prop} {dialect : Dialect}

/-- A script that visits the items of one sequence only. -/
theorem of_items {base : String} {bodies : List Script} {script : Script}
    (ordered : Key.Ordered [.series base])
    (own : Within skips (Placed [.series base bodies]) script)
    (orderly : ∀ body ∈ bodies, Orderly skips body) : Orderly skips script :=
  .at_one (.series base bodies) ordered own orderly

/-- A script that visits at its arguments only. -/
theorem of_arguments {arguments : List Part} {script : Script}
    (own : Within skips (Placed [.series "Arguments" (arguments.map Part.script)]) script)
    (parts : ∀ part ∈ arguments, part.IsOrderly skips) : Orderly skips script :=
  of_items (by decide) own (Part.IsOrderly.scripts parts)

/-- A script that visits at one part and at its arguments. -/
theorem of_part_and_arguments {segment : String} {part : Part} {arguments : List Part}
    {script : Script} (ordered : Key.Ordered [.series "Arguments", .single segment])
    (own : Within skips (Placed [.series "Arguments" (arguments.map Part.script),
      .single segment part.script]) script)
    (orderly : part.IsOrderly skips) (parts : ∀ part ∈ arguments, part.IsOrderly skips) :
    Orderly skips script :=
  .at_two (.series "Arguments" (arguments.map Part.script)) (.single segment part.script) ordered
    own (Part.IsOrderly.scripts parts) (.mem_single (orderly {}))

/-! ## Operators -/

theorem rightOperand_within (operator : BinaryOperator) {segment : String} {right : Part}
    (rights : placed segment right.script) :
    Within skips placed (rightOperand operator segment right) := by
  have visited : Within skips placed (right.visit segment) := .enter rights
  unfold rightOperand
  split
  · split
    · exact .bindLiteral _
    · split
      · exact visited
      · split
        · exact visited
        · exact .fail _
  · split
    · split
      · exact .bindLiteral _
      · exact visited
    · exact visited

theorem power_within {leftSegment rightSegment : String} {left right : Part}
    (lefts : placed leftSegment left.script) (rights : placed rightSegment right.script) :
    Within skips placed (power leftSegment left rightSegment right) :=
  ((((Within.write "POW(").append (.enter lefts)).append (.write ", ")).append
    (.enter rights)).append (.write ")")

/-- The left operand is visited twice if it is assigned a power of its own. -/
theorem binary_within (operator : BinaryOperator) {leftSegment rightSegment : String}
    {left right : Part} (assigned : placed (leftSegment ++ "_0") left.script)
    (lefts : placed leftSegment left.script) (rights : placed rightSegment right.script) :
    Within skips placed (binary operator leftSegment left rightSegment right) := by
  have visited : Within skips placed (left.visit leftSegment) := .enter lefts
  have powers : Within skips placed (power leftSegment left rightSegment right) :=
    power_within lefts rights
  unfold binary
  split
  · exact (visited.append (.write _)).append (rightOperand_within operator rights)
  · split
    · exact ((visited.append (.write _)).append (.enter rights)).append (.write _)
    · exact ((Within.enter assigned).append (.write _)).append powers
    · exact powers

theorem unary_within (operator : UnaryOperator) {segment : String} {operand : Part}
    (type : TypeRef) (operands : placed segment operand.script) :
    Within skips placed (unary dialect operator segment operand type) := by
  have visited : Within skips placed (operand.visit segment) := .enter operands
  cases operator with
  | convert | convertChecked | unbox =>
      simp only [unary]
      split
      · exact visited
      · exact (Within.write _).append visited
  | negate | negateChecked | unaryPlus | not | onesComplement | preIncrementAssign
  | preDecrementAssign | isFalse | throw => exact (Within.write _).append visited
  | arrayLength | typeAs | postIncrementAssign | postDecrementAssign | increment | decrement =>
      exact visited.append (.write _)
  | isTrue => exact visited
  | quote => exact .step nofun ((Within.openLines.append visited).append .dedent)

theorem bare_within (operator : UnaryOperator) : Within skips placed (bare operator) := by
  unfold bare
  split
  · exact .write _
  · exact .fail _

theorem binary_orderly (operator : BinaryOperator) {leftSegment rightSegment : String}
    {left right : Part} (ordered : Key.Ordered
      [.single (leftSegment ++ "_0"), .single leftSegment, .single rightSegment])
    (lefts : left.IsOrderly skips) (rights : right.IsOrderly skips) :
    Orderly skips (binary operator leftSegment left rightSegment right) :=
  .at_three (.single (leftSegment ++ "_0") left.script) (.single leftSegment left.script)
    (.single rightSegment right.script) ordered
    (binary_within operator (.head ⟨rfl, rfl⟩) (.tail (.head ⟨rfl, rfl⟩))
      (.tail (.tail (.head ⟨rfl, rfl⟩))))
    (.mem_single (lefts {})) (.mem_single (lefts {})) (.mem_single (rights {}))

theorem unary_orderly (operator : UnaryOperator) {segment : String} {operand : Part}
    (type : TypeRef) (ordered : Key.Ordered [.single segment])
    (operands : operand.IsOrderly skips) :
    Orderly skips (unary dialect operator segment operand type) :=
  .at_one (.single segment operand.script) ordered
    (unary_within operator type (.head ⟨rfl, rfl⟩)) (.mem_single (operands {}))

/-! ## Members and objects -/

theorem reference_within (owner : Option Expr) (member : Member) (type : TypeRef) :
    Within skips placed (reference dialect owner member type) := by
  unfold reference
  split
  · exact .bindNamed _ _
  · exact .fail _

theorem memberAccess_within {owner : Option Part} (member : Member) (type : TypeRef)
    (owners : ∀ part ∈ owner, placed "Expression" part.script) :
    Within skips placed (memberAccess dialect owner member type) := by
  cases owner with
  | none => exact reference_within none member type
  | some owner =>
      simp only [memberAccess]
      split
      · exact reference_within _ member type
      · exact (Within.enter (owners owner rfl)).append (.write _)

theorem constructed_within {arguments : List Part}
    (items : Items placed "Arguments" 0 (arguments.map Part.script)) :
    Within skips placed (constructed arguments) :=
  .between _ _ (.inLine items)

theorem namedArguments_within {start : Nat} (members : List String) {arguments : List Part}
    (items : Items placed "Arguments" start (arguments.map Part.script)) :
    ∀ script ∈ namedArguments start members arguments, Within skips placed script := by
  induction arguments generalizing start members with
  | nil => cases members <;> nofun
  | cons argument arguments ih =>
      cases members with
      | nil => nofun
      | cons member members =>
          have visited : Within skips placed (argument.visit (numbered "Arguments" start)) :=
            .enter items.first
          refine List.forall_mem_cons.mpr ⟨?_, ih members items.rest⟩
          split
          · exact visited
          · exact (Within.write _).append visited

theorem newObject_within {arguments : List Part} (members : List String) (type : TypeRef)
    (items : Items placed "Arguments" 0 (arguments.map Part.script)) :
    Within skips placed (newObject arguments members type) := by
  refine .step nofun ?_
  split
  · exact constructed_within items
  · split
    · exact .fail _
    · exact ((((Within.write _).append .openLines).append
        (.join (.delimit _) (namedArguments_within members items))).append .closeLines).append
        (.write _)

theorem braced_within {base : String} {bodies : List Script} (items : Items placed base 0 bodies) :
    Within skips placed (braced base bodies) := by
  refine .between _ _ ?_
  split
  · exact .done
  · exact (Within.openLines.append (.onLines items)).append .closeLines

theorem memberInit_within (new : NewObject) {constructor : Script} {bindings : List Script}
    (constructors : placed "NewExpression" constructor)
    (items : Items placed "Bindings" 0 bindings) :
    Within skips placed (memberInit new constructor bindings) := by
  refine .step nofun ?_
  split
  · exact braced_within items
  · exact .enter constructors
  · exact ((Within.enter constructors).append (.write _)).append (braced_within items)

theorem elementInit_within {arguments : List Part}
    (items : Items placed "Arguments" 0 (arguments.map Part.script)) :
    Within skips placed (elementInit arguments) := by
  unfold elementInit
  split
  · exact .fail _
  · exact .enter items.first
  · exact braced_within items

theorem newArray_within (kind : ArrayKind) {parts : List Part} (type : TypeRef)
    (items : Items placed "Expressions" 0 (parts.map Part.script)) :
    Within skips placed (newArray dialect kind parts type) := by
  have listed : Within skips placed (Part.inLine "Expressions" parts) := .inLine items
  unfold newArray
  split
  · exact .between _ _ listed
  · split
    · exact .fail _
    · split
      · exact .fail _
      · exact .between _ _ listed

theorem keys_within {start : Nat} {arguments : List Part}
    (items : Items placed "Arguments" start (arguments.map Part.script)) :
    ∀ key ∈ keys start arguments, Within skips placed key :=
  .visits items

theorem element_within {segment : String} {object : Part} {keys : List Script}
    (objects : placed segment object.script) (within : ∀ key ∈ keys, Within skips placed key) :
    Within skips placed (element segment object keys) :=
  (((Within.enter objects).append (.write _)).append (.join (.write _) within)).append (.write _)

theorem typeTest_within (kind : TypeTestKind) {subject : Part} (operand : TypeRef)
    (subjects : placed "Expression" subject.script) :
    Within skips placed (typeTest dialect kind subject operand) := by
  refine (Within.enter subjects).append ?_
  cases kind <;> exact .write _

theorem invocation_within {function : Part} {arguments : List Part}
    (functions : placed "Expression" function.script)
    (items : Items placed "Arguments" 0 (arguments.map Part.script)) :
    Within skips placed (invocation function arguments) := by
  have visited : Within skips placed (function.visit "Expression") := .enter functions
  refine ((Within.append ?_ (.write _)).append (.inLine items)).append (.write _)
  split
  · exact .between _ _ visited
  · exact visited

theorem memberAccess_orderly {owner : Option Part} (member : Member) (type : TypeRef)
    (owners : ∀ part ∈ owner, part.IsOrderly skips) :
    Orderly skips (memberAccess dialect owner member type) := by
  cases owner with
  | none => exact .alone (memberAccess_within member type nofun)
  | some owner =>
      refine .at_one (.single "Expression" owner.script) (by decide : Key.Ordered [.single _])
        (memberAccess_within member type ?_) (.mem_single (owners owner rfl {}))
      rintro _ ⟨⟩
      exact .head ⟨rfl, rfl⟩

theorem memberInit_orderly (new : NewObject) {constructor : Script} {bindings : List Script}
    (constructors : Orderly skips constructor) (items : ∀ item ∈ bindings, Orderly skips item) :
    Orderly skips (memberInit new constructor bindings) :=
  .at_two (.series "Bindings" bindings) (.single "NewExpression" constructor)
    (by decide : Key.Ordered [.series _, .single _])
    (memberInit_within new (.tail (.head ⟨rfl, rfl⟩)) (.series _ _)) items
    (.mem_single constructors)

theorem newArray_orderly (kind : ArrayKind) {parts : List Part} (type : TypeRef)
    (orderly : ∀ part ∈ parts, part.IsOrderly skips) :
    Orderly skips (newArray dialect kind parts type) :=
  of_items (by decide) (newArray_within kind type (.series _ _)) (Part.IsOrderly.scripts orderly)

theorem element_orderly {object : Part} {arguments : List Part} (objects : object.IsOrderly skips)
    (parts : ∀ part ∈ arguments, part.IsOrderly skips) :
    Orderly skips (element "Object" object (keys 0 arguments)) :=
  of_part_and_arguments (by decide)
    (element_within (.tail (.head ⟨rfl, rfl⟩)) (keys_within (.series _ _))) objects parts

theorem typeTest_orderly (kind : TypeTestKind) {subject : Part} (operand : TypeRef)
    (subjects : subject.IsOrderly skips) :
    Orderly skips (typeTest dialect kind subject operand) :=
  .at_one (.single "Expression" subject.script) (by decide : Key.Ordered [.single _])
    (typeTest_within kind operand (.head ⟨rfl, rfl⟩)) (.mem_single (subjects {}))

theorem invocation_orderly {function : Part} {arguments : List Part}
    (functions : function.IsOrderly skips) (parts : ∀ part ∈ arguments, part.IsOrderly skips) :
    Orderly skips (invocation function arguments) :=
  of_part_and_arguments (by decide) (invocation_within (.tail (.head ⟨rfl, rfl⟩)) (.series _ _))
    functions parts

/-! ## Calls -/

theorem formatSegments_within {items : List Script}
    (within : ∀ item ∈ items, Within skips placed item) (segments : List FormatString.Segment) :
    Within skips placed (formatSegments items segments) := by
  induction segments with
  | nil => exact .done
  | cons segment segments ih =>
      obtain ⟨literal, placeholder⟩ := segment
      cases placeholder with
      | none => exact .write _
      | some placeholder =>
          refine ((Within.write _).append ?_).append ih
          unfold formatItem
          split
          · exact .fail _
          · rename_i item found
            exact .between _ _ (within item (List.mem_of_getElem? found))

theorem interpolated_within (format : String) {items : List Script}
    (within : ∀ item ∈ items, Within skips placed item) :
    Within skips placed (interpolated format items) := by
  unfold interpolated
  split
  · exact .fail _
  · exact .between _ _ (formatSegments_within within _)

theorem rowCount_within (stage : Stage) (arguments : List Part) {use : Int → Script}
    (uses : ∀ count, Within skips placed (use count)) :
    Within skips placed (rowCount stage arguments use) := by
  unfold rowCount
  split
  · split
    · exact uses _
    · exact .fail _
  · exact .fail _

theorem likeClause_within (arguments : List Part) :
    Within skips placed (likeClause arguments) := by
  unfold likeClause
  split
  · exact .fail _
  · split
    · exact .fail _
    · exact (Within.write _).append (.bindLiteral _)

theorem clause_within {stage : Stage} (arguments : List Part) {visited : Script}
    (allowed : stage = .skip → skips) (within : Within skips placed visited) :
    Within skips placed (clause stage arguments visited) := by
  cases stage with
  | filter | select | groupBy => exact (Within.write _).append within
  | orderBy | orderByDescending | thenBy | thenByDescending => exact .between _ _ within
  | singleOrDefault =>
      refine Within.append ?_ (.single nofun)
      split
      · exact .done
      · exact (Within.write _).append within
  | contains => exact .done
  | startsWith => exact likeClause_within arguments
  | take => exact rowCount_within _ arguments fun _ => .write _
  | skip => exact rowCount_within _ arguments fun _ => .single fun _ => allowed rfl

theorem applied_within {method : Method} (arguments : List Part) {visited : Script}
    (allowed : Stage.ofName? method.name = some .skip → skips)
    (within : Within skips placed visited) :
    Within skips placed (applied method arguments visited) := by
  unfold applied
  split
  · rename_i stage named
    exact clause_within arguments (fun same => allowed (named.trans (congrArg some same))) within
  · exact .between _ _ within

theorem received_within {method : Method} {receiver : Script} (arguments : List Part)
    {visited : Script} (allowed : Stage.ofName? method.name = some .skip → skips)
    (receivers : Within skips placed receiver) (within : Within skips placed visited) :
    Within skips placed (received method receiver arguments visited) := by
  refine Within.append ?_ (applied_within arguments allowed within)
  split
  · exact (within.append (.write _)).append receivers
  · exact receivers

variable {target : Option Part} {method : Method} {arguments : List Part}
  {itemsAt : Nat → List Script}

theorem concatenation_orderly {script : Script}
    (parts : ∀ part ∈ arguments, part.IsOrderly skips)
    (items : ∀ item ∈ itemsAt 0, Orderly skips item)
    (joined : concatenation? arguments itemsAt = some script) : Orderly skips script := by
  unfold concatenation? at joined
  split at joined
  · cases joined
  · split at joined
    · cases joined
      exact .at_one (.series (itemsSegment 0) (itemsAt 0)) (by decide : Key.Ordered [.series _])
        (.inLine (.series _ _)) items
    · split at joined
      · cases joined
        exact of_arguments (.inLine (.series _ _)) parts
      · cases joined

theorem formatItems_eq (arguments : List Part) (itemsAt : Nat → List Script) :
    formatItems arguments itemsAt = visits (itemsSegment 1) 0 (itemsAt 1) ∨
      formatItems arguments itemsAt = keys 1 arguments.tail := by
  unfold formatItems
  split
  · exact .inr rfl
  · split
    · exact .inl rfl
    · exact .inr rfl
  · exact .inr rfl

theorem interpolated_orderly (format : String)
    (parts : ∀ part ∈ arguments, part.IsOrderly skips)
    (items : ∀ item ∈ itemsAt 1, Orderly skips item) :
    Orderly skips (interpolated format (formatItems arguments itemsAt)) := by
  rcases formatItems_eq arguments itemsAt with items_eq | items_eq <;> rw [items_eq]
  · exact .at_one (.series (itemsSegment 1) (itemsAt 1)) (by decide : Key.Ordered [.series _])
      (interpolated_within format (.visits (.series _ _))) items
  · refine of_arguments (interpolated_within format ?_) parts
    cases arguments with
    | nil => nofun
    | cons first arguments => exact keys_within (Items.series _ _).rest

section

variable (targets : ∀ part ∈ target, part.IsOrderly skips)
  (parts : ∀ part ∈ arguments, part.IsOrderly skips)

include targets parts

theorem plainCall_orderly (allowed : Stage.ofName? method.name = some .skip → skips) :
    Orderly skips (plainCall dialect target method arguments) := by
  have alone : Items (Placed [.series "Arguments" (arguments.map Part.script)]) "Arguments" 0
      (arguments.map Part.script) := .series _ _
  cases target with
  | some target =>
      exact of_part_and_arguments (by decide)
        (received_within arguments allowed (.enter (.tail (.head ⟨rfl, rfl⟩)))
          (.join (.write _) (keys_within (.series _ _)))) (targets target rfl) parts
  | none =>
      refine of_arguments ?_ parts
      unfold plainCall
      split
      · contradiction
      · cases arguments with
        | nil => exact .fail _
        | cons first arguments =>
            exact received_within arguments allowed (.enter alone.first)
              (.join (.write _) (keys_within alone.rest))
      · exact (Within.write _).append
          (applied_within arguments allowed (.join (.write _) (keys_within alone)))

theorem otherCall_orderly (allowed : Stage.ofName? method.name = some .skip → skips)
    (items : ∀ item ∈ itemsAt 1, Orderly skips item) :
    Orderly skips (otherCall dialect target method arguments itemsAt) := by
  have plain : Orderly skips (plainCall dialect target method arguments) :=
    plainCall_orderly targets parts allowed
  unfold otherCall
  split
  · cases target with
    | none => exact .alone (.fail _)
    | some target => exact element_orderly (targets target rfl) parts
  · split
    · split
      · exact interpolated_orderly _ parts items
      · exact plain
    · exact plain

/-- A call visits its receiver and its arguments, or the items of an array that is one. -/
theorem call_orderly (allowed : Stage.ofName? method.name = some .skip → skips)
    (items : ∀ index, ∀ item ∈ itemsAt index, Orderly skips item) :
    Orderly skips (call dialect target method arguments itemsAt) := by
  have other : Orderly skips (otherCall dialect target method arguments itemsAt) :=
    otherCall_orderly targets parts allowed (items 1)
  unfold call
  split
  · split
    · rename_i script joined
      exact concatenation_orderly parts (items 0) joined
    · exact other
  · exact other

end

/-! ## Late-bound operations -/

/-- The arguments of a late-bound operation are visited at their own places. -/
theorem late_orderly (operation : LateOperation) (type : TypeRef)
    (parts : ∀ part ∈ arguments, part.IsOrderly skips) :
    Orderly skips (late dialect operation arguments type) := by
  have items : Items (Placed [.series "Arguments" (arguments.map Part.script)]) "Arguments" 0
      (arguments.map Part.script) := .series _ _
  unfold late
  split
  · exact binary_orderly _ (by decide) (parts _ List.mem_cons_self)
      (parts _ (List.mem_cons_of_mem _ List.mem_cons_self))
  · exact .alone (.fail _)
  · exact of_arguments (unary_within _ _ items.first) parts
  · exact .alone (.fail _)
  · exact of_arguments (unary_within _ _ items.first) parts
  · exact .alone (.fail _)
  · exact of_arguments (constructed_within items) parts
  · exact .alone (.fail _)
  · exact .alone (.fail _)
  · exact of_arguments (element_within items.first (keys_within items.rest)) parts
  · exact .alone (.fail _)
  · exact of_arguments ((Within.enter items.first).append (.write _)) parts
  · exact .alone (.fail _)
  · refine of_arguments ?_ parts
    exact (((Within.enter items.first).append (.write _)).append
      (.join (.write _) (keys_within items.rest))).append (.write _)
  · exact .alone (.fail _)
  · refine of_arguments ?_ parts
    exact (((Within.enter items.first).append (.write _)).append
      (.join (.write _) (keys_within items.rest))).append (.write _)
  · exact .alone (.fail _)
  · refine of_arguments ?_ parts
    exact ((element_within items.first (keys_within items.rest.rest)).append (.write _)).append
      (.enter items.rest.first)
  · exact .alone (.fail _)
  · refine of_arguments ?_ parts
    exact ((Within.enter items.first).append (.write _)).append (.enter items.rest.first)
  · exact .alone (.fail _)

end AqlPipeline.Render
