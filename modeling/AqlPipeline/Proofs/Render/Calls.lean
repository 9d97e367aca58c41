import AqlPipeline.Proofs.Render.Alike

/-!
# Calls with a hidden change

Method calls and operations that are bound while the query runs are written alike if their parts
are.  The number of rows of a stage is the same, since it is no text.
-/

namespace AqlPipeline.Render

open Script

variable {like : Likeness} {dialect : Dialect} {change : HiddenChange like dialect}

/-! ## Strings -/

theorem isItems_eq {part other : Part} (alike : Part.Alike change part other) :
    other.isItems = part.isItems := by
  rw [Part.isItems, alike.expr_eq, Part.isItems]
  cases part.expr with
  | newArray kind => cases kind <;> rfl
  | _ => rfl

theorem concatenation?_alike {arguments arguments' : List Part}
    {itemsAt itemsAt' : Nat → List Script}
    (alike : List.Forall₂ (Part.Alike change) arguments arguments')
    (items : ∀ index, List.Forall₂ (Script.Alike like) (itemsAt index) (itemsAt' index)) :
    Option.Rel (Script.Alike like) (concatenation? arguments itemsAt)
      (concatenation? arguments' itemsAt') := by
  have strings_eq : (arguments'.all fun argument => argument.expr.type.isString) =
      arguments.all fun argument => argument.expr.type.isString := by
    induction alike with
    | nil => rfl
    | cons first _ ih => simp only [List.all_cons, first.expr_eq, Expr.type_onRight, ih]
  cases alike with
  | nil => exact .none
  | cons first others =>
      simp only [concatenation?, isItems_eq first, strings_eq]
      split
      · exact .some (.inLine _ _ (items 0))
      · split
        · exact .some (.inLine _ _ (Part.Alike.list_scripts (.cons first others)))
        · exact .none

theorem constantFormat?_eq {arguments arguments' : List Part}
    (alike : List.Forall₂ (Part.Alike change) arguments arguments') :
    constantFormat? arguments' = constantFormat? arguments := by
  cases alike with
  | nil => rfl
  | @cons first _ _ _ firsts =>
      simp only [constantFormat?, firsts.expr_eq]
      cases first.expr <;> rfl

theorem formatItems_alike {arguments arguments' : List Part} {itemsAt itemsAt' : Nat → List Script}
    (alike : List.Forall₂ (Part.Alike change) arguments arguments')
    (items : ∀ index, List.Forall₂ (Script.Alike like) (itemsAt index) (itemsAt' index)) :
    List.Forall₂ (Script.Alike like) (formatItems arguments itemsAt)
      (formatItems arguments' itemsAt') := by
  cases alike with
  | nil => exact .nil
  | cons first others =>
      cases others with
      | nil => exact .nil
      | cons second others =>
          cases others with
          | nil =>
              simp only [formatItems, isItems_eq second]
              split
              · exact Script.Alike.visits _ _ (items 1)
              · exact Part.Alike.keys 1 (.cons second .nil)
          | cons third others => exact Part.Alike.keys 1 (.cons second (.cons third others))

theorem formatItem_alike (placeholder : FormatString.Placeholder) {items items' : List Script}
    (alike : List.Forall₂ (Script.Alike like) items items') :
    Script.Alike like (formatItem placeholder items) (formatItem placeholder items') := by
  have found : Option.Rel (Script.Alike like) items[placeholder.index]?
      items'[placeholder.index]? := by
    generalize placeholder.index = index
    induction alike generalizing index with
    | nil => exact .none
    | cons first _ ih =>
        cases index with
        | zero => exact .some first
        | succ index => exact ih index
  unfold formatItem
  rw [alike.length_eq]
  generalize items[placeholder.index]? = item, items'[placeholder.index]? = item' at found
  cases found with
  | none => exact .fail _
  | some item => exact ((Script.Alike.write _).append item).append (.write _)

theorem formatSegments_alike {items items' : List Script}
    (alike : List.Forall₂ (Script.Alike like) items items') (segments : List FormatString.Segment) :
    Script.Alike like (formatSegments items segments) (formatSegments items' segments) := by
  induction segments with
  | nil => exact .done
  | cons segment segments ih =>
      obtain ⟨literal, placeholder⟩ := segment
      cases placeholder with
      | none => exact .write _
      | some placeholder =>
          exact ((Script.Alike.write _).append (formatItem_alike placeholder alike)).append ih

theorem interpolated_alike (format : String) {items items' : List Script}
    (alike : List.Forall₂ (Script.Alike like) items items') :
    Script.Alike like (interpolated format items) (interpolated format items') := by
  unfold interpolated
  split
  · exact .fail _
  · exact ((Script.Alike.write _).append (formatSegments_alike alike _)).append (.write _)

/-! ## Calls -/

theorem rowCount_alike (stage : Stage) {arguments arguments' : List Part} {use : Int → Script}
    (alike : List.Forall₂ (Part.Alike change) arguments arguments')
    (uses : ∀ count, Script.Alike like (use count) (use count)) :
    Script.Alike like (rowCount stage arguments use) (rowCount stage arguments' use) := by
  cases alike with
  | nil => exact .fail _
  | @cons first _ _ _ firsts =>
      have count_eq : first.expr.staticValue?.bind Json.int64? =
          (first.expr.onRight change.apply).staticValue?.bind Json.int64? :=
        Likeness.bind_eq_of_known (first.expr.staticValue?_onRight change) fun _ => rfl
      rw [rowCount, rowCount, firsts.expr_eq, count_eq]
      cases (first.expr.onRight change.apply).staticValue?.bind Json.int64? with
      | none => exact .fail _
      | some count => exact uses count

theorem likeClause_alike {arguments arguments' : List Part}
    (alike : List.Forall₂ (Part.Alike change) arguments arguments') :
    Script.Alike like (likeClause arguments) (likeClause arguments') := by
  cases alike with
  | nil => exact .fail _
  | @cons first _ _ _ firsts =>
      have values := Likeness.values_of_known (first.expr.staticValue?_onRight change)
      simp only [likeClause, firsts.expr_eq]
      generalize first.expr.staticValue? = value, (first.expr.onRight _).staticValue? = value'
        at values
      cases values with
      | none => exact .fail _
      | some values =>
          exact (Script.Alike.write _).append
            (.bindLiteral (like.texts (fun value _ => likePattern value) values values))

theorem clause_alike (stage : Stage) {arguments arguments' : List Part} {visited visited' : Script}
    (alike : List.Forall₂ (Part.Alike change) arguments arguments')
    (visits : Script.Alike like visited visited') :
    Script.Alike like (clause stage arguments visited) (clause stage arguments' visited') := by
  cases stage with
  | filter | select | groupBy => exact (Script.Alike.write _).append visits
  | orderBy | orderByDescending | thenBy | thenByDescending =>
      exact ((Script.Alike.write _).append visits).append (.write _)
  | singleOrDefault =>
      refine Script.Alike.append ?_ (.plain _ rfl .done)
      cases alike with
      | nil => exact .done
      | cons => exact (Script.Alike.write _).append visits
  | contains => exact .done
  | startsWith => exact likeClause_alike alike
  | take => exact rowCount_alike _ alike fun _ => .write _
  | skip => exact rowCount_alike _ alike fun _ => .plain _ rfl .done

theorem applied_alike (method : Method) {arguments arguments' : List Part}
    {visited visited' : Script} (alike : List.Forall₂ (Part.Alike change) arguments arguments')
    (visits : Script.Alike like visited visited') :
    Script.Alike like (applied method arguments visited) (applied method arguments' visited') := by
  unfold applied
  split
  · exact clause_alike _ alike visits
  · exact ((Script.Alike.write _).append visits).append (.write _)

theorem received_alike (method : Method) {receiver receiver' : Script}
    {arguments arguments' : List Part} {visited visited' : Script}
    (receivers : Script.Alike like receiver receiver')
    (alike : List.Forall₂ (Part.Alike change) arguments arguments')
    (visits : Script.Alike like visited visited') :
    Script.Alike like (received method receiver arguments visited)
      (received method receiver' arguments' visited') := by
  refine Script.Alike.append ?_ (applied_alike method alike visits)
  split
  · exact (visits.append (.write _)).append receivers
  · exact receivers

theorem plainCall_alike (method : Method) {target target' : Option Part}
    {arguments arguments' : List Part} (targets : Option.Rel (Part.Alike change) target target')
    (alike : List.Forall₂ (Part.Alike change) arguments arguments') :
    Script.Alike like (plainCall dialect target method arguments)
      (plainCall dialect target' method arguments') := by
  have visits : ∀ index {parts parts' : List Part},
      List.Forall₂ (Part.Alike change) parts parts' →
      Script.Alike like (join (write ", ") (keys index parts))
        (join (write ", ") (keys index parts')) :=
    fun index _ _ alike => .join (.write _) (Part.Alike.keys index alike)
  cases targets with
  | some target => exact received_alike method (target.visit _) alike (visits 0 alike)
  | none =>
      unfold plainCall
      cases method.kind with
      | extension =>
          cases alike with
          | nil => exact .fail _
          | cons first others =>
              exact received_alike method (first.visit _) others (visits 1 others)
      | _ => exact (Script.Alike.write _).append (applied_alike method alike (visits 0 alike))

theorem isElementRead_eq (method : Method) {target target' : Option Part}
    (targets : Option.Rel (Part.Alike change) target target') :
    isElementRead target' method = isElementRead target method := by
  cases targets with
  | none => rfl
  | some target => simp [isElementRead, target.expr_eq]

theorem otherCall_alike (method : Method) {target target' : Option Part}
    {arguments arguments' : List Part} {itemsAt itemsAt' : Nat → List Script}
    (targets : Option.Rel (Part.Alike change) target target')
    (alike : List.Forall₂ (Part.Alike change) arguments arguments')
    (items : ∀ index, List.Forall₂ (Script.Alike like) (itemsAt index) (itemsAt' index)) :
    Script.Alike like (otherCall dialect target method arguments itemsAt)
      (otherCall dialect target' method arguments' itemsAt') := by
  have plain := plainCall_alike method targets alike
  unfold otherCall
  rw [isElementRead_eq method targets, constantFormat?_eq alike]
  split
  · cases targets with
    | none => exact .fail _
    | some target => exact element_alike _ target (Part.Alike.keys 0 alike)
  · split
    · split
      · exact interpolated_alike _ (formatItems_alike alike items)
      · exact plain
    · exact plain

theorem call_alike (method : Method) {target target' : Option Part}
    {arguments arguments' : List Part} {itemsAt itemsAt' : Nat → List Script}
    (targets : Option.Rel (Part.Alike change) target target')
    (alike : List.Forall₂ (Part.Alike change) arguments arguments')
    (items : ∀ index, List.Forall₂ (Script.Alike like) (itemsAt index) (itemsAt' index)) :
    Script.Alike like (call dialect target method arguments itemsAt)
      (call dialect target' method arguments' itemsAt') := by
  have other := otherCall_alike method targets alike items
  have joined := concatenation?_alike alike items
  unfold call
  generalize concatenation? arguments itemsAt = script, concatenation? arguments' itemsAt' = script'
    at joined
  split
  · cases joined with
    | none => exact other
    | some joined => exact joined
  · exact other

/-! ## Operations bound while the query runs -/

theorem miscounted_alike (operation : LateOperation) (expected : Arity)
    {arguments arguments' : List Part}
    (alike : List.Forall₂ (Part.Alike change) arguments arguments') :
    Script.Alike like (miscounted operation expected arguments)
      (miscounted operation expected arguments') := by
  rw [miscounted, alike.length_eq]
  exact .fail _

theorem argumentsFrom_alike (index : Nat) {arguments arguments' : List Part}
    (alike : List.Forall₂ (Part.Alike change) arguments arguments') :
    Script.Alike like (argumentsFrom index arguments) (argumentsFrom index arguments') :=
  .join (.write _) (Part.Alike.keys index alike)

/-- An operation other than a binary operator. -/
theorem late_alike {operation : LateOperation}
    (other : ∀ operator, operation ≠ .binaryOp operator) (type : TypeRef)
    {arguments arguments' : List Part}
    (alike : List.Forall₂ (Part.Alike change) arguments arguments') :
    Script.Alike like (late dialect operation arguments type)
      (late dialect operation arguments' type) := by
  have miscount := fun expected => miscounted_alike operation expected alike
  cases operation with
  | binaryOp operator => exact absurd rfl (other operator)
  | createInstance => exact constructed_alike alike
  | deleteIndex => exact .fail _
  | deleteMember name => exact .fail _
  | convert target =>
      cases alike with
      | nil => exact miscount _
      | cons operand others =>
          cases others with
          | nil => exact unary_alike .convert _ target operand
          | cons => exact miscount _
  | unaryOp operator =>
      cases alike with
      | nil => exact miscount _
      | cons operand others =>
          cases others with
          | nil => exact unary_alike operator _ type operand
          | cons => exact miscount _
  | getMember name =>
      cases alike with
      | nil => exact miscount _
      | cons receiver others =>
          cases others with
          | nil => exact (receiver.visit _).append (.write _)
          | cons => exact miscount _
  | getIndex =>
      cases alike with
      | nil => exact miscount _
      | cons receiver others =>
          cases others with
          | nil => exact miscount _
          | cons key others => exact element_alike _ receiver (Part.Alike.keys 1 (.cons key others))
  | invoke =>
      cases alike with
      | nil => exact miscount _
      | cons receiver others =>
          exact (((receiver.visit _).append (.write _)).append
            (argumentsFrom_alike 1 others)).append (.write _)
  | invokeMember name =>
      cases alike with
      | nil => exact miscount _
      | cons receiver others =>
          exact (((receiver.visit _).append (.write _)).append
            (argumentsFrom_alike 1 others)).append (.write _)
  | setIndex =>
      cases alike with
      | nil => exact miscount _
      | cons receiver others =>
          cases others with
          | nil => exact miscount _
          | cons value others =>
              cases others with
              | nil => exact miscount _
              | cons key others =>
                  exact ((element_alike _ receiver (Part.Alike.keys 2 (.cons key others))).append
                    (.write _)).append (value.visit _)
  | setMember name =>
      cases alike with
      | nil => exact miscount _
      | cons receiver others =>
          cases others with
          | nil => exact miscount _
          | cons value others =>
              cases others with
              | nil => exact ((receiver.visit _).append (.write _)).append (value.visit _)
              | cons => exact miscount _

end AqlPipeline.Render
