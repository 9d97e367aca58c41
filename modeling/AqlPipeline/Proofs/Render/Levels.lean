import AqlPipeline.Proofs.Script.Levels
import AqlPipeline.Render.Call
import AqlPipeline.Render.Late

/-!
# Operators, objects and calls come back to their level

Wherever lines are opened, they are closed again, so that each form of expression keeps the level if
its parts do.
-/

namespace AqlPipeline

open Script

/-- Whether a part comes back to its level wherever it stands. -/
def Part.IsLevel (part : Part) : Prop :=
  ∀ placement, Level 0 (part.scriptAt placement)

namespace Part.IsLevel

variable {rise : Nat}

@[grind ←] theorem visitAs {part : Part} (level : part.IsLevel) (segment : String)
    (placement : Placement) : Level rise (part.visitAs segment placement) :=
  (level placement).enter segment

@[grind ←] theorem visit {part : Part} (level : part.IsLevel) (segment : String) :
    Level rise (part.visit segment) :=
  (level {}).enter segment

theorem scripts {parts : List Part} (levels : ∀ part ∈ parts, part.IsLevel) :
    ∀ script ∈ parts.map Part.script, Level 0 script := by
  intro script member
  obtain ⟨part, inside, rfl⟩ := List.mem_map.mp member
  exact levels part inside {}

theorem inLine (base : String) {parts : List Part} (levels : ∀ part ∈ parts, part.IsLevel) :
    Level rise (Part.inLine base parts) :=
  Level.inLine base ", " (scripts levels)

theorem keys (index : Nat) {parts : List Part} (levels : ∀ part ∈ parts, part.IsLevel) :
    ∀ key ∈ Render.keys index parts, Level rise key :=
  Level.visits "Arguments" index (scripts levels)

end Part.IsLevel

namespace Render

variable {dialect : Dialect}

/-! ## Operators -/

theorem rightOperand_level (operator : BinaryOperator) (segment : String) {right : Part}
    (rights : right.IsLevel) : Level 0 (rightOperand operator segment right) := by
  unfold rightOperand
  repeat' split
  all_goals grind

theorem power_level (leftSegment rightSegment : String) {left right : Part} (lefts : left.IsLevel)
    (rights : right.IsLevel) : Level 0 (power leftSegment left rightSegment right) := by
  unfold power
  grind

theorem binary_level (operator : BinaryOperator) (leftSegment rightSegment : String)
    {left right : Part} (lefts : left.IsLevel) (rights : right.IsLevel) :
    Level 0 (binary operator leftSegment left rightSegment right) := by
  have powers := power_level leftSegment rightSegment lefts rights
  have operands := rightOperand_level operator rightSegment rights
  unfold binary
  repeat' split
  all_goals grind

/-- A lambda that is passed on is one level deeper, and goes back behind it. -/
theorem quote_level (segment : String) {operand : Part} (type : TypeRef)
    (operands : operand.IsLevel) : Level 0 (unary dialect .quote segment operand type) := by
  intro height
  have inside : Climbs 0 height (openLines ++ operand.visit segment) (height + 1) :=
    Climbs.openLines.append_level (operands.visit segment)
  exact .step rfl (inside.append .dedented)

theorem unary_level (operator : UnaryOperator) (segment : String) {operand : Part} (type : TypeRef)
    (operands : operand.IsLevel) : Level 0 (unary dialect operator segment operand type) := by
  cases operator with
  | quote => exact quote_level segment type operands
  | convert | convertChecked | unbox =>
      simp only [unary]
      split <;> grind
  | _ => grind [unary]

theorem bare_level (operator : UnaryOperator) : Level 0 (bare operator) := by
  unfold bare
  split <;> grind

/-! ## Members and objects -/

theorem reference_level (owner : Option Expr) (member : Member) (type : TypeRef) :
    Level 0 (reference dialect owner member type) := by
  unfold reference
  split <;> grind

theorem memberAccess_level {owner : Option Part} (owners : ∀ part ∈ owner, part.IsLevel)
    (member : Member) (type : TypeRef) : Level 0 (memberAccess dialect owner member type) := by
  unfold memberAccess
  split
  · exact reference_level none member type
  · rename_i part
    have visited : part.IsLevel := owners part rfl
    split
    · exact reference_level _ member type
    · grind

theorem constructed_level {arguments : List Part} (levels : ∀ part ∈ arguments, part.IsLevel) :
    Level 0 (constructed arguments) := by
  grind [constructed, Part.IsLevel.inLine _ levels]

theorem namedArguments_level (index : Nat) (members : List String) {arguments : List Part}
    (levels : ∀ part ∈ arguments, part.IsLevel) :
    ∀ script ∈ namedArguments index members arguments, Level 0 script := by
  induction arguments generalizing index members with
  | nil => cases members <;> nofun
  | cons argument arguments ih =>
      obtain ⟨own, others⟩ := List.forall_mem_cons.mp levels
      cases members with
      | nil => nofun
      | cons member members =>
          refine List.forall_mem_cons.mpr ⟨?_, ih _ members others⟩
          split <;> grind

theorem newObject_level {arguments : List Part} (levels : ∀ part ∈ arguments, part.IsLevel)
    (members : List String) (type : TypeRef) : Level 0 (newObject arguments members type) := by
  refine .step rfl ?_
  split
  · exact constructed_level levels
  · split
    · exact .fail _
    · exact .enclosed _ _ (.join (.delimit _) (namedArguments_level 0 members levels))

theorem braced_level (base : String) {items : List Script}
    (levels : ∀ item ∈ items, Level 0 item) : Level 0 (braced base items) := by
  refine .append (.append (.write _) ?_) (.write _)
  intro height
  split
  · exact .done
  · exact (Climbs.openLines.append_level (.onLines base ", " levels)).append .closeLines

theorem memberInit_level (new : NewObject) {constructor : Script} {bindings : List Script}
    (constructors : Level 0 constructor) (levels : ∀ binding ∈ bindings, Level 0 binding) :
    Level 0 (memberInit new constructor bindings) := by
  have braces := braced_level "Bindings" levels
  refine .step rfl ?_
  split <;> grind

theorem assigned_level (member : String) {value : Script} (values : Level 0 value) :
    Level 0 (assigned member value) := by
  grind [assigned]

theorem elementInit_level {arguments : List Part} (levels : ∀ part ∈ arguments, part.IsLevel) :
    Level 0 (elementInit arguments) := by
  unfold elementInit
  split
  · exact .fail _
  · exact (levels _ List.mem_cons_self).visit _
  · exact braced_level _ (Part.IsLevel.scripts levels)

theorem listInit_level {initializers : List Script}
    (levels : ∀ initializer ∈ initializers, Level 0 initializer) :
    Level 0 (listInit initializers) := by
  grind [listInit, Level.inLine _ _ levels]

theorem newArray_level (kind : ArrayKind) (type : TypeRef) {items : List Part}
    (levels : ∀ part ∈ items, part.IsLevel) : Level 0 (newArray dialect kind items type) := by
  have inside : Level 0 (Part.inLine "Expressions" items) := Part.IsLevel.inLine _ levels
  unfold newArray
  repeat' split
  all_goals grind

theorem element_level (segment : String) {object : Part} {keys : List Script}
    (objects : object.IsLevel) (levels : ∀ key ∈ keys, Level 0 key) :
    Level 0 (element segment object keys) := by
  have inside : Level 0 (join (write ", ") keys) := .join (.write _) levels
  grind [element]

theorem typeTest_level (kind : TypeTestKind) (operand : TypeRef) {subject : Part}
    (subjects : subject.IsLevel) : Level 0 (typeTest dialect kind subject operand) := by
  cases kind <;> grind [typeTest]

theorem invocation_level {function : Part} {arguments : List Part} (functions : function.IsLevel)
    (levels : ∀ part ∈ arguments, part.IsLevel) : Level 0 (invocation function arguments) := by
  have inside : Level 0 (Part.inLine "Arguments" arguments) := Part.IsLevel.inLine _ levels
  unfold invocation
  refine .append (.append (.append ?_ (.write _)) inside) (.write _)
  split <;> grind

/-! ## Calls -/

section Calls

variable {arguments : List Part} {itemsAt : Nat → List Script}

theorem concatenation?_level (levels : ∀ part ∈ arguments, part.IsLevel)
    (items : ∀ index, ∀ script ∈ itemsAt index, Level 0 script) :
    ∀ script ∈ concatenation? arguments itemsAt, Level 0 script := by
  unfold concatenation?
  split
  · nofun
  · split
    · rintro _ ⟨⟩
      exact .inLine _ _ (items 0)
    · split
      · rintro _ ⟨⟩
        exact .inLine _ _ (Part.IsLevel.scripts levels)
      · nofun

theorem formatItems_level (levels : ∀ part ∈ arguments, part.IsLevel)
    (items : ∀ index, ∀ script ∈ itemsAt index, Level 0 script) :
    ∀ script ∈ formatItems arguments itemsAt, Level 0 script := by
  unfold formatItems
  split
  · nofun
  · split
    · exact Level.visits _ 0 (items 1)
    · exact Part.IsLevel.keys 1 (List.forall_mem_cons.mp levels).2
  · exact Part.IsLevel.keys 1 (List.forall_mem_cons.mp levels).2

theorem formatItem_level (placeholder : FormatString.Placeholder) {items : List Script}
    (levels : ∀ item ∈ items, Level 0 item) : Level 0 (formatItem placeholder items) := by
  unfold formatItem
  split
  · exact .fail _
  · rename_i found
    have inside := levels _ (List.mem_of_getElem? found)
    grind

theorem formatSegments_level {items : List Script} (levels : ∀ item ∈ items, Level 0 item)
    (segments : List FormatString.Segment) : Level 0 (formatSegments items segments) := by
  induction segments with
  | nil => exact .nothing
  | cons segment segments ih =>
      obtain ⟨literal, placeholder⟩ := segment
      cases placeholder with
      | none => exact .write _
      | some placeholder =>
          grind [formatSegments, formatItem_level placeholder levels]

theorem interpolated_level (format : String) {items : List Script}
    (levels : ∀ item ∈ items, Level 0 item) : Level 0 (interpolated format items) := by
  unfold interpolated
  split <;> grind [formatSegments_level levels]

theorem rowCount_level (stage : Stage) {use : Int → Script} (uses : ∀ count, Level 0 (use count)) :
    Level 0 (rowCount stage arguments use) := by
  unfold rowCount
  repeat' split
  all_goals grind

theorem likeClause_level : Level 0 (likeClause arguments) := by
  unfold likeClause
  repeat' split
  all_goals grind

theorem clause_level (stage : Stage) {visited : Script} (visits : Level 0 visited) :
    Level 0 (clause stage arguments visited) := by
  cases stage with
  | singleOrDefault =>
      have yields : Level 0 (.step .yieldIterator .done) := .single rfl
      simp only [clause]
      split <;> grind
  | startsWith => exact likeClause_level
  | take => exact rowCount_level _ fun _ => .write _
  | skip => exact rowCount_level _ fun _ => .single rfl
  | _ => grind [clause]

theorem applied_level (method : Method) {visited : Script} (visits : Level 0 visited) :
    Level 0 (applied method arguments visited) := by
  unfold applied
  split
  · exact clause_level _ visits
  · grind

theorem received_level (method : Method) {receiver visited : Script} (receivers : Level 0 receiver)
    (visits : Level 0 visited) : Level 0 (received method receiver arguments visited) := by
  unfold received
  refine .append ?_ (applied_level method visits)
  split <;> grind

theorem argumentsFrom_level (index : Nat) (levels : ∀ part ∈ arguments, part.IsLevel) :
    Level 0 (argumentsFrom index arguments) :=
  .join (.write _) (Part.IsLevel.keys index levels)

theorem plainCall_level {target : Option Part} (targets : ∀ part ∈ target, part.IsLevel)
    (method : Method) (levels : ∀ part ∈ arguments, part.IsLevel) :
    Level 0 (plainCall dialect target method arguments) := by
  unfold plainCall
  dsimp only
  split
  · exact received_level method ((targets _ rfl).visit _) (argumentsFrom_level 0 levels)
  · split
    · exact .fail _
    · obtain ⟨firsts, others⟩ := List.forall_mem_cons.mp levels
      exact received_level method (firsts.visit _) (argumentsFrom_level 1 others)
  · exact (Level.write _).append (applied_level method (argumentsFrom_level 0 levels))

theorem otherCall_level {target : Option Part} (targets : ∀ part ∈ target, part.IsLevel)
    (method : Method) (levels : ∀ part ∈ arguments, part.IsLevel)
    (items : ∀ index, ∀ script ∈ itemsAt index, Level 0 script) :
    Level 0 (otherCall dialect target method arguments itemsAt) := by
  have plain : Level 0 (plainCall dialect target method arguments) :=
    plainCall_level targets method levels
  unfold otherCall
  split
  · split
    · exact .fail _
    · exact element_level _ (targets _ rfl) (Part.IsLevel.keys 0 levels)
  · split
    · split
      · exact interpolated_level _ (formatItems_level levels items)
      · exact plain
    · exact plain

theorem call_level {target : Option Part} (targets : ∀ part ∈ target, part.IsLevel)
    (method : Method) (levels : ∀ part ∈ arguments, part.IsLevel)
    (items : ∀ index, ∀ script ∈ itemsAt index, Level 0 script) :
    Level 0 (call dialect target method arguments itemsAt) := by
  have other : Level 0 (otherCall dialect target method arguments itemsAt) :=
    otherCall_level targets method levels items
  unfold call
  split
  · split
    · rename_i joined
      exact concatenation?_level levels items _ joined
    · exact other
  · exact other

theorem late_level (operation : LateOperation) (type : TypeRef)
    (levels : ∀ part ∈ arguments, part.IsLevel) :
    Level 0 (late dialect operation arguments type) := by
  have bound : ∀ {expected}, Level 0 (miscounted operation expected arguments) := .fail _
  unfold late
  split
  · exact binary_level _ _ _ (levels _ (by simp)) (levels _ (by simp))
  · exact bound
  · exact unary_level _ _ _ (levels _ (by simp))
  · exact bound
  · exact unary_level _ _ _ (levels _ (by simp))
  · exact bound
  · exact constructed_level levels
  · exact .fail _
  · exact .fail _
  · obtain ⟨receivers, others⟩ := List.forall_mem_cons.mp levels
    exact element_level _ receivers (Part.IsLevel.keys 1 others)
  · exact bound
  · have receivers := levels _ List.mem_cons_self
    grind
  · exact bound
  · obtain ⟨receivers, others⟩ := List.forall_mem_cons.mp levels
    have inside := argumentsFrom_level 1 others
    grind
  · exact bound
  · obtain ⟨receivers, others⟩ := List.forall_mem_cons.mp levels
    have inside := argumentsFrom_level 1 others
    grind
  · exact bound
  · rename_i receiver value key others
    obtain ⟨receivers, values, keyed⟩ :
        receiver.IsLevel ∧ value.IsLevel ∧ ∀ part ∈ key :: others, part.IsLevel := by
      simpa using levels
    have inside := element_level (argumentSegment 0) receivers (Part.IsLevel.keys 2 keyed)
    grind
  · exact bound
  · rename_i receiver value
    obtain ⟨receivers, values⟩ : receiver.IsLevel ∧ value.IsLevel := by simpa using levels
    grind
  · exact bound

end Calls

end Render

end AqlPipeline
