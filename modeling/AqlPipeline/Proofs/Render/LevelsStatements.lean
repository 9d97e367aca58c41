import AqlPipeline.Proofs.Render.Levels
import AqlPipeline.Render.Statement

/-!
# Statements come back to their level

All but the cases of a switch do, and the body of a case is what leaves the level one higher.  The
switch goes back behind each of its cases, and behind its default.
-/

namespace AqlPipeline.Render

open Script

variable {dialect : Dialect} {rise : Nat}

@[grind ←] theorem declaration_level (parameter : Parameter) :
    Level rise (declaration parameter) :=
  .single rfl

@[grind ←] theorem statementEnd_level (expr : Expr) : Level rise (statementEnd expr) := by
  unfold statementEnd
  repeat' split
  all_goals grind

theorem declarations_level (parameters : List Parameter) :
    ∀ script ∈ parameters.map declaration, Level 0 script := by
  intro script member
  obtain ⟨parameter, -, rfl⟩ := List.mem_map.mp member
  exact declaration_level parameter

theorem bracedStatement_level (segment : String) (placement : Placement) {body : Part}
    (bodies : body.IsLevel) : Level rise (bracedStatement segment placement body) := by
  intro height
  have visited := (Climbs.opened rise height "\x7b").append_level (bodies.visitAs segment placement)
  exact (visited.append_level (statementEnd_level body.expr)).closed _

/-! ## Lambdas -/

theorem lambdaStatements_level {body : Part} (bodies : body.IsLevel) :
    Level 0 (lambdaStatements body) := by
  intro height
  have returned : ∀ returns : Bool, Level 0 (if returns then write "return " else .done) := by
    intro returns
    split <;> grind
  exact ((((Climbs.opened 0 height "\x7b").append_level (returned _)).append_level
    (bodies.visitAs "Body" _)).append_level (statementEnd_level body.expr)).closed _

theorem lambda_level (parameters : List Parameter) {body : Part} (bodies : body.IsLevel) :
    Level 0 (lambda parameters body) := by
  refine .append (.inLine _ _ (declarations_level parameters)) ?_
  split
  · exact .fail _
  · exact bodies.visit _
  · exact lambdaStatements_level bodies

/-! ## Blocks -/

theorem variableStatements_level (index : Nat) (parameters : List Parameter) :
    Level 0 (variableStatements index parameters) := by
  induction parameters generalizing index with
  | nil => exact .nothing
  | cons parameter parameters ih =>
      have declared : Level 0 (.enter (numbered "Variables" index) (declaration parameter)) := by
        grind
      exact ((declared.append (.write _)).append .breakLine).append (ih (index + 1))

theorem statement_level (segment : String) (returns : Bool) {body : Part} (bodies : body.IsLevel) :
    Level 0 (statement segment returns body) := by
  unfold statement
  refine .append ?_ (statementEnd_level body.expr)
  repeat' split
  all_goals grind

theorem statementList_level (returning : Bool) (index : Nat) {bodies : List Part}
    (levels : ∀ part ∈ bodies, part.IsLevel) :
    ∀ script ∈ statementList returning index bodies, Level 0 script := by
  induction bodies generalizing index with
  | nil => nofun
  | cons body bodies ih =>
      obtain ⟨own, others⟩ := List.forall_mem_cons.mp levels
      cases bodies with
      | nil => exact List.forall_mem_singleton.mpr (statement_level _ _ own)
      | cons next bodies =>
          exact List.forall_mem_cons.mpr ⟨statement_level _ _ own, ih (index + 1) others⟩

theorem statements_level (locals : List Parameter) {expressions : List Part}
    (levels : ∀ part ∈ expressions, part.IsLevel) (placement : Placement) :
    Level 0 (statements locals expressions placement) := by
  have body := (variableStatements_level 0 locals).append
    (.join .breakLine (statementList_level (placement.form == .returning) 0 levels))
  unfold statements
  dsimp only
  split
  · exact .enclosed _ _ body
  · exact body

theorem sequenceItems_level (index : Nat) (isFirst followsLabel : Bool) {parts : List Part}
    (levels : ∀ part ∈ parts, part.IsLevel) :
    Level 0 (sequenceItems index isFirst followsLabel parts) := by
  induction parts generalizing index isFirst followsLabel with
  | nil => exact .nothing
  | cons part parts ih =>
      obtain ⟨own, others⟩ := List.forall_mem_cons.mp levels
      refine .append (.append ?_ (own.visitAs _ _)) (ih _ _ _ others)
      repeat' split
      all_goals grind

theorem sequence_level (locals : List Parameter) {expressions : List Part}
    (levels : ∀ part ∈ expressions, part.IsLevel) (placement : Placement) :
    Level 0 (sequence locals expressions placement) := by
  have body := (Level.onLines "Variables" ", " (declarations_level locals)).append
    (sequenceItems_level 0 locals.isEmpty false levels)
  unfold sequence
  dsimp only
  split
  · exact body
  · split
    · exact .enclosed _ _ body
    · exact fun height => (Climbs.openLines.append_level body).append .closeLines

theorem block_level (locals : List Parameter) {expressions : List Part}
    (levels : ∀ part ∈ expressions, part.IsLevel) (placement : Placement) :
    Level 0 (block locals expressions placement) := by
  unfold block
  split
  · exact statements_level locals levels placement
  · exact statements_level locals levels placement
  · exact sequence_level locals levels placement
  · exact sequence_level locals levels placement

/-! ## Choices -/

theorem alternative_level {ifFalse : Part} (others : ifFalse.IsLevel) :
    Level 0 (alternative ifFalse) := by
  have braces : Level 0 (bracedStatement "IfFalse" ⟨.statements, false⟩ ifFalse) :=
    bracedStatement_level _ _ others
  unfold alternative
  repeat' split
  all_goals grind

theorem conditional_level (type : TypeRef) {test ifTrue ifFalse : Part} (tests : test.IsLevel)
    (thens : ifTrue.IsLevel) (others : ifFalse.IsLevel) :
    Level 0 (conditional test ifTrue ifFalse type) := by
  have braces : Level 0 (bracedStatement "IfTrue" ⟨.statements, false⟩ ifTrue) :=
    bracedStatement_level _ _ thens
  have otherwise := alternative_level others
  unfold conditional
  split <;> grind

/-- The body of a case stays indented. -/
theorem switchBody_climbs (segment : String) {body : Part} (bodies : body.IsLevel) (height : Nat) :
    Climbs rise height (switchBody segment body) (height + 1) := by
  have opened : Climbs rise height openLines (height + 1) := .openLines
  have visited := opened.append_level (bodies.visitAs segment ⟨.statements, false⟩)
  have ended := visited.append_level (statementEnd_level body.expr)
  exact (ended.append_level .breakLine).append_level (.write _)

theorem caseValues_level {values : List Part} (levels : ∀ part ∈ values, part.IsLevel) :
    Level rise (caseValues values) := by
  refine .join .breakLine ?_
  intro script member
  obtain ⟨visited, inside, rfl⟩ := List.mem_map.mp member
  have visits : Level rise visited := Level.visits _ 0 (Part.IsLevel.scripts levels) _ inside
  grind

/-- A case of a switch leaves the level one higher.  It does not fail by itself. -/
theorem switchCase_climbs {values : List Part} {body : Part}
    (levels : ∀ part ∈ values, part.IsLevel) (bodies : body.IsLevel) :
    Climbs 1 0 (switchCase values body) 1 :=
  (caseValues_level levels 0).append (switchBody_climbs "Body" bodies 0)

/-- A switch goes back behind each of its cases. -/
theorem switch_level {subject : Part} {cases : List Script} {defaultBody : Option Part}
    (subjects : subject.IsLevel) (climbs : ∀ script ∈ cases, Climbs 1 0 script 1)
    (defaults : ∀ part ∈ defaultBody, part.IsLevel) :
    Level 0 (switch subject cases defaultBody) := by
  intro height
  have eachCase : Level 0 (join breakLine ((visits "Cases" 0 cases).map (· ++ dedent))) := by
    refine .join .breakLine ?_
    intro script member height
    obtain ⟨visited, inside, rfl⟩ := List.mem_map.mp member
    obtain ⟨segment, body, own, rfl⟩ := exists_enter_of_mem inside
    exact ((climbs body own).enter segment).append .dedented
  have head : Level 0 (write "switch (" ++ subject.visitAs "SwitchValue" ⟨.test, false⟩ ++
      write ") \x7b") := by
    grind
  have opened := (head height).append .openLines
  refine Climbs.closed ((opened.append_level eachCase).append_level ?_) _
  split
  · exact .nothing
  · rename_i body
    have begun : Level 0 (breakLine ++ write "default:") := by grind
    intro height
    exact ((begun height).append (switchBody_climbs _ (defaults body rfl) height)).append .dedented

/-! ## Exceptions -/

theorem clauseIfAny_level (word segment : String) {body : Option Part}
    (bodies : ∀ part ∈ body, part.IsLevel) : Level 0 (clauseIfAny word segment body) := by
  cases body with
  | none => exact .nothing
  | some body => exact (Level.write word).append (bracedStatement_level _ _ (bodies body rfl))

theorem tryCatch_level {body : Part} {handlers : List Script} {fault finalizer : Option Part}
    (bodies : body.IsLevel) (levels : ∀ script ∈ handlers, Level 0 script)
    (faults : ∀ part ∈ fault, part.IsLevel) (finalizers : ∀ part ∈ finalizer, part.IsLevel) :
    Level 0 (tryCatch body handlers fault finalizer) := by
  have eachHandler :
      Level 0 (join .done ((visits "Handlers" 0 handlers).map (write " " ++ ·))) := by
    refine .join .nothing ?_
    intro script member
    obtain ⟨visited, inside, rfl⟩ := List.mem_map.mp member
    exact (Level.write " ").append (Level.visits _ 0 levels _ inside)
  have tried : Level 0 (write "try " ++ bracedStatement "Body" {} body) :=
    .append (.write _) (bracedStatement_level _ _ bodies)
  exact ((tried.append eachHandler).append (clauseIfAny_level _ _ faults)).append
    (clauseIfAny_level _ _ finalizers)

theorem catchHeader_level (test : TypeRef) (exception : Option Parameter) {filter : Option Part}
    (filters : ∀ part ∈ filter, part.IsLevel) :
    Level 0 (catchHeader dialect test exception filter) := by
  refine .append (.append (.append (.write _) ?_) (.write _)) ?_
  · split <;> grind
  · split
    · exact .nothing
    · have tests := filters _ rfl
      grind

theorem catchBlock_level (test : TypeRef) (exception : Option Parameter) {filter : Option Part}
    {body : Part} (filters : ∀ part ∈ filter, part.IsLevel) (bodies : body.IsLevel) :
    Level 0 (catchBlock dialect test exception filter body) := by
  refine .append (.append (.write _) ?_) (bracedStatement_level _ _ bodies)
  split
  · exact catchHeader_level test exception filters
  · exact .nothing

/-! ## Jumps, loops and comments -/

@[grind ←] theorem labelTarget_level (target : LabelTarget) : Level 0 (labelTarget target) :=
  .write _

theorem label_level (target : LabelTarget) : Level 0 (label target) := by
  grind [label]

theorem jumpTarget_level (target : Option LabelTarget) : Level 0 (jumpTarget target) := by
  unfold jumpTarget
  repeat' split
  all_goals grind

theorem goto_level (kind : GotoKind) (target : Option LabelTarget) {value : Option Part}
    (values : ∀ part ∈ value, part.IsLevel) : Level 0 (goto kind target value) := by
  refine .append (.append (.write _) (jumpTarget_level target)) ?_
  split
  · exact .nothing
  · exact (Level.write _).append ((values _ rfl).visit _)

theorem loop_level {body : Part} (bodies : body.IsLevel) : Level 0 (loop body) :=
  (Level.write _).append (bracedStatement_level _ _ bodies)

theorem variablesGroup_level (locals : List Parameter) : Level 0 (variablesGroup locals) := by
  refine .append (.write _) (.inLine _ _ ?_)
  intro script member
  obtain ⟨parameter, -, rfl⟩ := List.mem_map.mp member
  exact .write _

theorem debugMarker_level (marker : DebugMarker) : Level 0 (debugMarker marker) := by
  unfold debugMarker
  split <;> exact .write _

end AqlPipeline.Render
