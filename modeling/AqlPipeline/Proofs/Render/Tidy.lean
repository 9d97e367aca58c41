import AqlPipeline.Proofs.Script.Tidy
import AqlPipeline.Render.Call
import AqlPipeline.Render.Late

/-!
# Operators, objects and calls are tidy

Each form of expression is tidy if its parts are: in front of every part stands a word, a bracket or
a new line, with at most one space behind it.
-/

namespace AqlPipeline

open Script

/-- Whether a part may stand where a line break can make up for the spaces in front of it. -/
def Part.IsTidy (part : Part) : Prop :=
  ∀ placement, Tidy .ready (part.scriptAt placement) .any

namespace Part.IsTidy

theorem visitAs {part : Part} (tidy : part.IsTidy) (segment : String) (placement : Placement) :
    Tidy .ready (part.visitAs segment placement) .any :=
  (tidy placement).enter segment

theorem visit {part : Part} (tidy : part.IsTidy) (segment : String) :
    Tidy .ready (part.visit segment) .any :=
  (tidy {}).enter segment

theorem scripts {parts : List Part} (tidy : ∀ part ∈ parts, part.IsTidy) :
    ∀ script ∈ parts.map Part.script, Tidy .ready script .any := by
  intro script member
  obtain ⟨part, inside, rfl⟩ := List.mem_map.mp member
  exact tidy part inside {}

theorem inLine (base : String) {parts : List Part} (tidy : ∀ part ∈ parts, part.IsTidy) :
    Tidy .ready (Part.inLine base parts) .any :=
  Tidy.inLine base (by decide) (scripts tidy)

theorem keys (index : Nat) {parts : List Part} (tidy : ∀ part ∈ parts, part.IsTidy) :
    ∀ key ∈ Render.keys index parts, Tidy .ready key .any :=
  Tidy.visits "Arguments" index (scripts tidy)

end Part.IsTidy

namespace Render

variable {dialect : Dialect} {room : Room}

/-! ## Operators -/

theorem rightOperand_tidy (operator : BinaryOperator) (segment : String) {right : Part}
    (rights : right.IsTidy) : Tidy .ready (rightOperand operator segment right) .any := by
  have visited := rights.visit segment
  unfold rightOperand
  split
  · split
    · exact .bindLiteral _
    · split
      · exact visited
      · split
        · exact visited
        · exact .fail _
  · split
    · split
      · exact .bindLiteral _
      · exact visited
    · exact visited

theorem power_tidy (leftSegment rightSegment : String) {left right : Part} (lefts : left.IsTidy)
    (rights : right.IsTidy) : Tidy room (power leftSegment left rightSegment right) .any := by
  have opened : Tidy room (write "POW(") .ready := .write_ready (by decide)
  have divided : Tidy .any (write ", ") .ready := .write_ready (by decide)
  exact (((opened.append (lefts.visit _)).append divided).append (rights.visit _)).append (.write _)

theorem symbol_ends {operator : BinaryOperator} {symbol : String}
    (known : operator.symbol? = some symbol) : Text.EndsWithin 5 (" " ++ symbol ++ " ") := by
  cases operator <;> cases known <;> decide

theorem binary_tidy (operator : BinaryOperator) (leftSegment rightSegment : String)
    {left right : Part} (lefts : left.IsTidy) (rights : right.IsTidy) :
    Tidy .ready (binary operator leftSegment left rightSegment right) .any := by
  have powers : ∀ {room}, Tidy room (power leftSegment left rightSegment right) .any :=
    power_tidy leftSegment rightSegment lefts rights
  unfold binary
  split
  · rename_i symbol known
    have divided : Tidy .any (write (" " ++ symbol ++ " ")) .ready :=
      .write_ready (symbol_ends known)
    exact ((lefts.visit _).append divided).append (rightOperand_tidy operator _ rights)
  · split
    · have opened : Tidy .any (write "[") .ready := .write_ready (by decide)
      exact (((lefts.visit _).append opened).append (rights.visit _)).append (.write _)
    · exact ((lefts.visit _).append (.write _)).append powers
    · exact powers

theorem unary_tidy (operator : UnaryOperator) (segment : String) {operand : Part} (type : TypeRef)
    (operands : operand.IsTidy) :
    Tidy .ready (unary dialect operator segment operand type) .any := by
  have visited := operands.visit segment
  have behind : ∀ {text}, Text.EndsWithin 5 text →
      Tidy .ready (write text ++ operand.visit segment) .any := fun ends =>
    (Tidy.write_ready ends).append visited
  have inFront : ∀ text, Tidy .ready (operand.visit segment ++ write text) .any := fun text =>
    visited.append (.write text)
  cases operator with
  | arrayLength => exact inFront _
  | convert | convertChecked | unbox =>
      simp only [unary]
      split
      · exact visited
      · exact behind (Text.EndsWithin.append (by decide) _)
  | negate | negateChecked | unaryPlus | onesComplement | preIncrementAssign | preDecrementAssign
  | isFalse | throw => exact behind (by decide)
  | not =>
      simp only [unary]
      split <;> exact behind (by decide)
  | typeAs | postIncrementAssign | postDecrementAssign | increment | decrement => exact inFront _
  | isTrue => exact visited
  | quote => exact .quote (.refl _) (visited.append .dedent)

theorem bare_tidy (operator : UnaryOperator) : Tidy room (bare operator) .any := by
  unfold bare
  split
  · exact .write _
  · exact .fail _

/-! ## Members and objects -/

theorem reference_tidy (owner : Option Expr) (member : Member) (type : TypeRef) :
    Tidy room (reference dialect owner member type) .any := by
  unfold reference
  split
  · exact .bindNamed _ _
  · exact .fail _

theorem memberAccess_tidy {owner : Option Part} (owners : ∀ part ∈ owner, part.IsTidy)
    (member : Member) (type : TypeRef) :
    Tidy .ready (memberAccess dialect owner member type) .any := by
  cases owner with
  | none => exact reference_tidy none member type
  | some owner =>
      simp only [memberAccess]
      split
      · exact reference_tidy _ member type
      · exact ((owners owner rfl).visit _).append (.write _)

theorem constructed_tidy {arguments : List Part} (tidy : ∀ part ∈ arguments, part.IsTidy) :
    Tidy room (constructed arguments) .any := by
  have opened : Tidy room (write "\x7b") .ready := .write_ready (by decide)
  exact (opened.append (Part.IsTidy.inLine _ tidy)).append (.write _)

theorem namedArguments_tidy (index : Nat) (members : List String) {arguments : List Part}
    (tidy : ∀ part ∈ arguments, part.IsTidy) :
    ∀ script ∈ namedArguments index members arguments, Tidy .ready script .any := by
  induction arguments generalizing index members with
  | nil => cases members <;> nofun
  | cons argument arguments ih =>
      obtain ⟨own, others⟩ := List.forall_mem_cons.mp tidy
      cases members with
      | nil => nofun
      | cons member members =>
          have visited := own.visit (numbered "Arguments" index)
          have named : Tidy .ready (write (member ++ " = ")) .ready :=
            .write_ready (Text.EndsWithin.append (by decide) member)
          refine List.forall_mem_cons.mpr ⟨?_, ih (index + 1) members others⟩
          split
          · exact visited
          · exact named.append visited

theorem project_tidy (typeName : String) {script : Script} {next : Room}
    (tidy : Tidy room script next) : Tidy room (.step (.project typeName) script) next :=
  .step nofun (fun _ _ holds => holds) tidy

theorem newObject_tidy {arguments : List Part} (tidy : ∀ part ∈ arguments, part.IsTidy)
    (members : List String) (type : TypeRef) :
    Tidy room (newObject arguments members type) .any := by
  apply project_tidy
  split
  · exact constructed_tidy tidy
  · split
    · exact .fail _
    · have items := Tidy.join (Room.implies_any _) (.delimit ", ")
        (namedArguments_tidy 0 members tidy)
      exact ((Tidy.openBrace.append items).append .closeLines).append (.write _)

theorem braced_tidy (base : String) {items : List Script}
    (tidy : ∀ script ∈ items, Tidy .ready script .any) : Tidy room (braced base items) .any := by
  have listed : Tidy .any
      (if items.isEmpty then .done else openLines ++ onLines base ", " items ++ closeLines)
      .any := by
    split
    · exact .nothing
    · have listed := Tidy.onLines base ", " (Room.implies_any _) tidy
      exact ((Tidy.openLines.append listed).append .closeLines).loosen
  exact ((Tidy.write _).append listed).append (.write _)

theorem memberInit_tidy (new : NewObject) {constructor : Script} {bindings : List Script}
    (constructors : Tidy .ready constructor .any)
    (tidy : ∀ script ∈ bindings, Tidy .ready script .any) :
    Tidy .ready (memberInit new constructor bindings) .any := by
  have entered := constructors.enter "NewExpression"
  apply project_tidy
  split
  · exact braced_tidy _ tidy
  · exact entered
  · exact (entered.append (.write _)).append (braced_tidy _ tidy)

theorem assigned_tidy (member : String) {value : Script} (values : Tidy .ready value .any) :
    Tidy room (assigned member value) .any := by
  have named : Tidy room (write (member ++ " = ")) .ready :=
    .write_ready (Text.EndsWithin.append (by decide) member)
  exact named.append values

theorem elementInit_tidy {arguments : List Part} (tidy : ∀ part ∈ arguments, part.IsTidy) :
    Tidy .ready (elementInit arguments) .any := by
  unfold elementInit
  split
  · exact .fail _
  · exact (tidy _ List.mem_cons_self).visit _
  · exact braced_tidy _ (Part.IsTidy.scripts tidy)

theorem listInit_tidy {initializers : List Script}
    (tidy : ∀ script ∈ initializers, Tidy .ready script .any) :
    Tidy room (listInit initializers) .any := by
  have opened : Tidy room (write "[") .ready := .write_ready (by decide)
  exact (opened.append (.inLine _ (by decide) tidy)).append (.write _)

theorem newArray_tidy (kind : ArrayKind) {items : List Part} (type : TypeRef)
    (tidy : ∀ part ∈ items, part.IsTidy) : Tidy room (newArray dialect kind items type) .any := by
  have listed : ∀ {text}, Text.EndsWithin 5 text → ∀ closing,
      Tidy room (write text ++ Part.inLine "Expressions" items ++ write closing) .any :=
    fun ends closing =>
      ((Tidy.write_ready ends).append (Part.IsTidy.inLine _ tidy)).append (.write closing)
  unfold newArray
  split
  · exact listed (by decide) _
  · split
    · exact .fail _
    · split
      · exact .fail _
      · exact listed (Text.EndsWithin.append (by decide) _) _

theorem element_tidy (segment : String) {object : Part} {keys : List Script}
    (objects : object.IsTidy) (tidy : ∀ key ∈ keys, Tidy .ready key .any) :
    Tidy .ready (element segment object keys) .any := by
  have opened : Tidy .any (write "[") .ready := .write_ready (by decide)
  have divided : Tidy .any (write ", ") .ready := .write_ready (by decide)
  have keyed := Tidy.join (Room.implies_any _) divided tidy
  exact (((objects.visit segment).append opened).append keyed).append (.write _)

theorem typeTest_tidy (kind : TypeTestKind) {subject : Part} (operand : TypeRef)
    (subjects : subject.IsTidy) : Tidy .ready (typeTest dialect kind subject operand) .any := by
  refine (subjects.visit _).append ?_
  cases kind <;> exact .write _

theorem invocation_tidy {function : Part} {arguments : List Part} (functions : function.IsTidy)
    (tidy : ∀ part ∈ arguments, part.IsTidy) :
    Tidy .ready (invocation function arguments) .any := by
  have visited := functions.visit "Expression"
  have opened : ∀ {room}, Tidy room (write "(") .ready := .write_ready (by decide)
  have called : ∀ {script}, Tidy .ready script .any → Tidy .ready
      (script ++ write "(" ++ Part.inLine "Arguments" arguments ++ write ")") .any := fun scripts =>
    ((scripts.append opened).append (Part.IsTidy.inLine _ tidy)).append (.write _)
  apply called
  split
  · exact (opened.append visited).append (.write _)
  · exact visited

/-! ## Strings -/

theorem concatenation?_tidy {arguments : List Part} {itemsAt : Nat → List Script}
    (tidy : ∀ part ∈ arguments, part.IsTidy)
    (items : ∀ index, ∀ script ∈ itemsAt index, Tidy .ready script .any) :
    ∀ script ∈ concatenation? arguments itemsAt, Tidy .ready script .any := by
  unfold concatenation?
  split
  · nofun
  · split
    · rintro script ⟨⟩
      exact .inLine _ (by decide) (items 0)
    · split
      · rintro script ⟨⟩
        exact .inLine _ (by decide) (Part.IsTidy.scripts tidy)
      · nofun

theorem formatItems_tidy {arguments : List Part} {itemsAt : Nat → List Script}
    (tidy : ∀ part ∈ arguments, part.IsTidy)
    (items : ∀ index, ∀ script ∈ itemsAt index, Tidy .ready script .any) :
    ∀ script ∈ formatItems arguments itemsAt, Tidy .ready script .any := by
  unfold formatItems
  split
  · nofun
  · have others := (List.forall_mem_cons.mp tidy).2
    split
    · exact Tidy.visits _ 0 (items 1)
    · exact Part.IsTidy.keys 1 others
  · exact Part.IsTidy.keys 1 (List.forall_mem_cons.mp tidy).2

theorem formatItem_tidy (placeholder : FormatString.Placeholder) {items : List Script}
    (tidy : ∀ script ∈ items, Tidy .ready script .any) :
    Tidy room (formatItem placeholder items) .any := by
  unfold formatItem
  split
  · exact .fail _
  · rename_i item found
    have opened : Tidy room (write "\x7b") .ready := .write_ready (by decide)
    exact (opened.append (tidy item (List.mem_of_getElem? found))).append (.write _)

theorem formatSegments_tidy {items : List Script}
    (tidy : ∀ script ∈ items, Tidy .ready script .any) (segments : List FormatString.Segment) :
    Tidy .any (formatSegments items segments) .any := by
  induction segments with
  | nil => exact .nothing
  | cons segment segments ih =>
      obtain ⟨literal, placeholder⟩ := segment
      cases placeholder with
      | none => exact .write _
      | some placeholder =>
          exact ((Tidy.write _).append (formatItem_tidy placeholder tidy)).append ih

theorem interpolated_tidy (format : String) {items : List Script}
    (tidy : ∀ script ∈ items, Tidy .ready script .any) :
    Tidy room (interpolated format items) .any := by
  unfold interpolated
  split
  · exact .fail _
  · exact ((Tidy.write _).append (formatSegments_tidy tidy _)).append (.write _)

/-! ## Clauses -/

theorem rowCount_tidy (stage : Stage) (arguments : List Part) {use : Int → Script}
    (uses : ∀ count, Tidy room (use count) .any) :
    Tidy room (rowCount stage arguments use) .any := by
  unfold rowCount
  split
  · split
    · exact uses _
    · exact .fail _
  · exact .fail _

theorem likeClause_tidy (arguments : List Part) : Tidy room (likeClause arguments) .any := by
  unfold likeClause
  split
  · exact .fail _
  · split
    · exact .fail _
    · exact (Tidy.write _).append (.bindLiteral _)

theorem clause_tidy (stage : Stage) (arguments : List Part) {visited : Script}
    (tidy : Tidy .ready visited .any) : Tidy room (clause stage arguments visited) .any := by
  have worded : ∀ {room text}, Text.EndsWithin 5 text → Tidy room (write text ++ visited) .any :=
    fun ends => (Tidy.write_ready ends).append tidy
  have yielded : ∀ {room}, Tidy room (.step .yieldIterator .done) .any :=
    .single nofun fun _ _ _ => trivial
  cases stage with
  | filter | select | groupBy => exact worded (by decide)
  | orderBy | orderByDescending | thenBy | thenByDescending =>
      exact (worded (by decide)).append (.write _)
  | singleOrDefault =>
      simp only [clause]
      split
      · exact yielded
      · exact (worded (by decide)).append yielded
  | contains => exact .done (Room.implies_any _)
  | startsWith => exact likeClause_tidy arguments
  | take => exact rowCount_tidy _ arguments fun count => .write _
  | skip => exact rowCount_tidy _ arguments fun count => .single nofun fun _ _ _ => trivial

/-! ## Calls -/

theorem applied_tidy (method : Method) (arguments : List Part) {visited : Script}
    (tidy : Tidy .ready visited .any) : Tidy room (applied method arguments visited) .any := by
  unfold applied
  split
  · exact clause_tidy _ arguments tidy
  · have opened : Tidy room (write ("." ++ method.name ++ "(")) .ready :=
      .write_ready (Text.EndsWithin.append (by decide) _)
    exact (opened.append tidy).append (.write _)

theorem received_tidy (method : Method) {receiver : Script} (arguments : List Part)
    {visited : Script} (receivers : Tidy .ready receiver .any) (tidy : Tidy .ready visited .any) :
    Tidy .ready (received method receiver arguments visited) .any := by
  have behind : Tidy .any (applied method arguments visited) .any :=
    applied_tidy method arguments tidy
  unfold received
  split
  · have tested : Tidy .any (write "\nIN ") .ready := .write_ready (by decide)
    exact ((tidy.append tested).append receivers).append behind
  · exact receivers.append behind

theorem argumentsFrom_tidy (index : Nat) {arguments : List Part}
    (tidy : ∀ part ∈ arguments, part.IsTidy) :
    Tidy .ready (join (write ", ") (keys index arguments)) .any :=
  .join (Room.implies_any _) (.write_ready (by decide)) (Part.IsTidy.keys index tidy)

theorem plainCall_tidy {target : Option Part} (method : Method) {arguments : List Part}
    (targets : ∀ part ∈ target, part.IsTidy) (tidy : ∀ part ∈ arguments, part.IsTidy) :
    Tidy .ready (plainCall dialect target method arguments) .any := by
  unfold plainCall
  split
  · rename_i target
    exact received_tidy method arguments ((targets target rfl).visit _) (argumentsFrom_tidy 0 tidy)
  · split
    · exact .fail _
    · obtain ⟨first, others⟩ := List.forall_mem_cons.mp tidy
      exact received_tidy method _ (first.visit _) (argumentsFrom_tidy 1 others)
  · exact (Tidy.write _).append (applied_tidy method arguments (argumentsFrom_tidy 0 tidy))

theorem otherCall_tidy {target : Option Part} (method : Method) {arguments : List Part}
    {itemsAt : Nat → List Script} (targets : ∀ part ∈ target, part.IsTidy)
    (tidy : ∀ part ∈ arguments, part.IsTidy)
    (items : ∀ index, ∀ script ∈ itemsAt index, Tidy .ready script .any) :
    Tidy .ready (otherCall dialect target method arguments itemsAt) .any := by
  have plain : Tidy .ready (plainCall dialect target method arguments) .any :=
    plainCall_tidy method targets tidy
  unfold otherCall
  split
  · split
    · exact .fail _
    · exact element_tidy _ (targets _ rfl) (Part.IsTidy.keys 0 tidy)
  · split
    · split
      · exact interpolated_tidy _ (formatItems_tidy tidy items)
      · exact plain
    · exact plain

theorem call_tidy {target : Option Part} (method : Method) {arguments : List Part}
    {itemsAt : Nat → List Script} (targets : ∀ part ∈ target, part.IsTidy)
    (tidy : ∀ part ∈ arguments, part.IsTidy)
    (items : ∀ index, ∀ script ∈ itemsAt index, Tidy .ready script .any) :
    Tidy .ready (call dialect target method arguments itemsAt) .any := by
  have other : Tidy .ready (otherCall dialect target method arguments itemsAt) .any :=
    otherCall_tidy method targets tidy items
  unfold call
  split
  · split
    · rename_i script joined
      exact concatenation?_tidy tidy items script joined
    · exact other
  · exact other

/-! ## Operations bound while the query runs -/

theorem late_tidy (operation : LateOperation) {arguments : List Part} (type : TypeRef)
    (tidy : ∀ part ∈ arguments, part.IsTidy) :
    Tidy .ready (late dialect operation arguments type) .any := by
  have opened : ∀ {text}, Text.EndsWithin 5 text → Tidy .any (write text) .ready := .write_ready
  cases operation with
  | createInstance => exact constructed_tidy tidy
  | deleteIndex => exact .fail _
  | deleteMember name => exact .fail _
  | binaryOp operator =>
      match arguments, tidy with
      | [_, _], tidy => exact binary_tidy operator _ _ (tidy _ (by simp)) (tidy _ (by simp))
      | [], _ | [_], _ | _ :: _ :: _ :: _, _ => exact .fail _
  | convert target =>
      match arguments, tidy with
      | [_], tidy => exact unary_tidy .convert _ target (tidy _ (by simp))
      | [], _ | _ :: _ :: _, _ => exact .fail _
  | unaryOp operator =>
      match arguments, tidy with
      | [_], tidy => exact unary_tidy operator _ type (tidy _ (by simp))
      | [], _ | _ :: _ :: _, _ => exact .fail _
  | getMember name =>
      match arguments, tidy with
      | [_], tidy => exact ((tidy _ (by simp)).visit _).append (.write _)
      | [], _ | _ :: _ :: _, _ => exact .fail _
  | getIndex =>
      match arguments, tidy with
      | _ :: _ :: _, tidy =>
          obtain ⟨receiver, others⟩ := List.forall_mem_cons.mp tidy
          exact element_tidy _ receiver (Part.IsTidy.keys 1 others)
      | [], _ | [_], _ => exact .fail _
  | invoke =>
      match arguments, tidy with
      | _ :: _, tidy =>
          obtain ⟨receiver, others⟩ := List.forall_mem_cons.mp tidy
          exact (((receiver.visit _).append (opened (by decide))).append
            (argumentsFrom_tidy 1 others)).append (.write _)
      | [], _ => exact .fail _
  | invokeMember name =>
      match arguments, tidy with
      | _ :: _, tidy =>
          obtain ⟨receiver, others⟩ := List.forall_mem_cons.mp tidy
          exact (((receiver.visit _).append (opened (Text.EndsWithin.append (by decide) _))).append
            (argumentsFrom_tidy 1 others)).append (.write _)
      | [], _ => exact .fail _
  | setIndex =>
      match arguments, tidy with
      | _ :: _ :: _ :: _, tidy =>
          obtain ⟨receiver, others⟩ := List.forall_mem_cons.mp tidy
          obtain ⟨value, others⟩ := List.forall_mem_cons.mp others
          have indexed := element_tidy (argumentSegment 0) receiver (Part.IsTidy.keys 2 others)
          exact (indexed.append (opened (by decide))).append (value.visit _)
      | [], _ | [_], _ | [_, _], _ => exact .fail _
  | setMember name =>
      match arguments, tidy with
      | [_, _], tidy =>
          exact (((tidy _ (by simp)).visit _).append
            (opened (Text.EndsWithin.append (by decide) _))).append ((tidy _ (by simp)).visit _)
      | [], _ | [_], _ | _ :: _ :: _ :: _, _ => exact .fail _

end Render

end AqlPipeline
