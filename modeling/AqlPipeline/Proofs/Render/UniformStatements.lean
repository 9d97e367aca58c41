import AqlPipeline.Proofs.Script.Uniform
import AqlPipeline.Render.Statement

/-!
# Statements with a parameter renamed

Lambdas, blocks and statements are written uniformly in the name of a parameter if their parts are.
The parameter may be that of the lambda itself.
-/

namespace AqlPipeline.Render

open Script

variable {old : String}

/-! ## Lambdas, blocks and statements -/

theorem bracedStatement_uniform (segment : String) (placement : Placement) {body : String → Part}
    (bodies : Part.Uniform old body) :
    Script.Uniform fun name => bracedStatement segment placement (body name) := by
  have visited := bodies.visitAs segment placement
  obtain ⟨expr, expr_eq⟩ := bodies.renamed
  simp only [bracedStatement, expr_eq, statementEnd_renamed]
  exact (((((Uniform.write _).append (.const openLines)).append visited).append
    (.const _)).append (.const closeLines)).append (.write _)

theorem lambdaStatements_uniform {body : String → Part} (bodies : Part.Uniform old body) :
    Script.Uniform fun name => lambdaStatements (body name) := by
  have visited := bodies.visitAs "Body"
  obtain ⟨expr, expr_eq⟩ := bodies.renamed
  simp only [lambdaStatements, expr_eq, Expr.type_renamed, isLongBlock_renamed,
    statementEnd_renamed]
  exact ((((((Uniform.write _).append (.const openLines)).append (.const _)).append
    (visited _)).append (.const _)).append (.const closeLines)).append (.write _)

/-- The body of a lambda, behind its parameters. -/
theorem lambda_uniform {parameters : String → List Parameter} {body : String → Part}
    (declared : Script.Uniform fun name =>
      inLine "Parameters" "" ((parameters name).map declaration))
    (bodies : Part.Uniform old body) :
    Script.Uniform fun name => lambda (parameters name) (body name) := by
  have visited := bodies.visit "Body"
  have statements := lambdaStatements_uniform bodies
  obtain ⟨expr, expr_eq⟩ := bodies.renamed
  simp only [lambda, expr_eq, isInlined_renamed]
  refine declared.append ?_
  cases isInlined expr with
  | error error => exact .fail error
  | ok inlined =>
      cases inlined with
      | true => exact visited
      | false => exact statements

theorem statement_uniform (segment : String) (returns : Bool) {body : String → Part}
    (bodies : Part.Uniform old body) :
    Script.Uniform fun name => statement segment returns (body name) := by
  have visited := bodies.visitAs segment
  obtain ⟨expr, expr_eq⟩ := bodies.renamed
  simp only [statement, expr_eq, isLongBlock_renamed, statementEnd_renamed]
  exact (Uniform.ite (fun _ => visited _) fun _ => (Uniform.const _).append (visited _)).append
    (.const _)

theorem statementList_uniform (returning : Bool) (index : Nat) {bodies : String → List Part}
    (each : Each (Part.Uniform old) bodies) :
    Each Script.Uniform fun name => statementList returning index (bodies name) := by
  induction each generalizing index with
  | nil => exact .nil
  | cons first others ih =>
      cases others with
      | nil => exact .cons (statement_uniform _ _ first) .nil
      | cons => exact .cons (statement_uniform _ _ first) (ih (index + 1))

theorem statements_uniform (locals : List Parameter) (placement : Placement)
    {expressions : String → List Part} (each : Each (Part.Uniform old) expressions) :
    Script.Uniform fun name => statements locals (expressions name) placement := by
  have body := (Uniform.const (variableStatements 0 locals)).append
    (.join breakLine (statementList_uniform (placement.form == .returning) 0 each))
  exact .ite (fun _ => ((((Uniform.write _).append (.const openLines)).append body).append
    (.const closeLines)).append (.write _)) fun _ => body

theorem sequenceItems_uniform (index : Nat) (isFirst followsLabel : Bool)
    {parts : String → List Part} (each : Each (Part.Uniform old) parts) :
    Script.Uniform fun name => sequenceItems index isFirst followsLabel (parts name) := by
  induction each generalizing index isFirst followsLabel with
  | nil => exact .done
  | cons first _ ih =>
      have visited := first.visitAs (numbered "Expressions" index) ⟨.test, true⟩
      obtain ⟨expr, expr_eq⟩ := first.renamed
      simp only [sequenceItems, expr_eq, isVariablesGroup_renamed, isLabel_renamed]
      exact ((Uniform.const _).append visited).append (ih _ _ _)

theorem sequence_uniform (locals : List Parameter) (placement : Placement)
    {expressions : String → List Part} (each : Each (Part.Uniform old) expressions) :
    Script.Uniform fun name => sequence locals (expressions name) placement := by
  have body := (Uniform.const (onLines "Variables" ", " (locals.map declaration))).append
    (sequenceItems_uniform 0 locals.isEmpty false each)
  simp only [sequence, each.length_eq]
  refine .ite (fun _ => body) fun _ => .ite (fun _ => ?_) fun _ => ?_
  · exact ((((Uniform.write _).append (.const openLines)).append body).append
      (.const closeLines)).append (.write _)
  · exact ((Uniform.const openLines).append body).append (.const closeLines)

theorem block_uniform (locals : List Parameter) (placement : Placement)
    {expressions : String → List Part} (each : Each (Part.Uniform old) expressions) :
    Script.Uniform fun name => block locals (expressions name) placement := by
  unfold block
  cases placement.form with
  | statements | returning => exact statements_uniform locals placement each
  | inline | test => exact sequence_uniform locals placement each

/-! ## Choices -/

theorem alternative_uniform {ifFalse : String → Part} (alternatives : Part.Uniform old ifFalse) :
    Script.Uniform fun name => alternative (ifFalse name) := by
  have braced := bracedStatement_uniform "IfFalse" ⟨.statements, false⟩ alternatives
  have visited := alternatives.visitAs "IfFalse" ⟨.statements, false⟩
  obtain ⟨expr, expr_eq⟩ := alternatives.renamed
  simp only [alternative, expr_eq, Expr.isEmpty_renamed, statementEnd_renamed]
  refine .ite (fun _ => .done) fun _ => (Uniform.write _).append ?_
  cases expr with
  | conditional => exact visited.append (.const _)
  | _ => exact braced

theorem conditional_uniform (type : TypeRef) {test ifTrue ifFalse : String → Part}
    (tests : Part.Uniform old test) (consequences : Part.Uniform old ifTrue)
    (alternatives : Part.Uniform old ifFalse) :
    Script.Uniform fun name => conditional (test name) (ifTrue name) (ifFalse name) type := by
  refine .ite (fun _ => ?_) fun _ => ?_
  · exact ((((Uniform.write _).append (tests.visitAs _ _)).append (.write _)).append
      (bracedStatement_uniform _ _ consequences)).append (alternative_uniform alternatives)
  · exact ((((tests.visit _).append (.write _)).append (consequences.visit _)).append
      (.write _)).append (alternatives.visit _)

theorem switchBody_uniform (segment : String) {body : String → Part}
    (bodies : Part.Uniform old body) :
    Script.Uniform fun name => switchBody segment (body name) := by
  have visited := bodies.visitAs segment ⟨.statements, false⟩
  obtain ⟨expr, expr_eq⟩ := bodies.renamed
  simp only [switchBody, expr_eq, statementEnd_renamed]
  exact ((((Uniform.const openLines).append visited).append (.const _)).append
    (.const breakLine)).append (.write _)

theorem switchCase_uniform {values : String → List Part} {body : String → Part}
    (each : Each (Part.Uniform old) values) (bodies : Part.Uniform old body) :
    Script.Uniform fun name => switchCase (values name) (body name) := by
  have visited := Uniform.visits "TestValues" 0 (Part.Uniform.list_scripts each)
  refine Uniform.append (.join breakLine (visited.map ?_)) (switchBody_uniform _ bodies)
  exact fun value => ((Uniform.write _).append value).append (.write _)

theorem switch_uniform {subject : String → Part} {cases : String → List Script}
    {defaultBody : String → Option Part} (subjects : Part.Uniform old subject)
    (each : Each Script.Uniform cases) (defaults : IfAny (Part.Uniform old) defaultBody) :
    Script.Uniform fun name => switch (subject name) (cases name) (defaultBody name) := by
  have visited := Uniform.visits "Cases" 0 each
  refine (((((((Uniform.write _).append (subjects.visitAs _ _)).append (.write _)).append
    (.const openLines)).append (.join breakLine (visited.map ?_))).append ?_).append
      (.const closeLines)).append (.write _)
  · exact fun first => first.append (.const dedent)
  · cases defaults with
    | none => exact .done
    | some body =>
        exact (((Uniform.const breakLine).append (.write _)).append
          (switchBody_uniform _ body)).append (.const dedent)

/-! ## Exceptions, jumps and loops -/

theorem clauseIfAny_uniform (word segment : String) {body : String → Option Part}
    (bodies : IfAny (Part.Uniform old) body) :
    Script.Uniform fun name => clauseIfAny word segment (body name) := by
  cases bodies with
  | none => exact .done
  | some body => exact (Uniform.write _).append (bracedStatement_uniform _ _ body)

theorem tryCatch_uniform {body : String → Part} {handlers : String → List Script}
    {fault finalizer : String → Option Part} (bodies : Part.Uniform old body)
    (each : Each Script.Uniform handlers) (faults : IfAny (Part.Uniform old) fault)
    (finalizers : IfAny (Part.Uniform old) finalizer) :
    Script.Uniform fun name =>
      tryCatch (body name) (handlers name) (fault name) (finalizer name) := by
  have visited := Uniform.visits "Handlers" 0 each
  refine ((((Uniform.write _).append (bracedStatement_uniform _ _ bodies)).append
    (.join .done (visited.map ?_))).append (clauseIfAny_uniform _ _ faults)).append
      (clauseIfAny_uniform _ _ finalizers)
  exact fun first => (Uniform.write _).append first

theorem catchHeader_uniform (dialect : Dialect) (test : TypeRef) (exception : Option Parameter)
    {filter : String → Option Part} (filters : IfAny (Part.Uniform old) filter) :
    Script.Uniform fun name => catchHeader dialect test exception (filter name) := by
  refine (((Uniform.write _).append (.const _)).append (.write _)).append ?_
  cases filters with
  | none => exact .done
  | some filter => exact ((Uniform.write _).append (filter.visitAs _ _)).append (.write _)

theorem catchBlock_uniform (dialect : Dialect) (test : TypeRef) (exception : Option Parameter)
    {filter : String → Option Part} {body : String → Part}
    (filters : IfAny (Part.Uniform old) filter) (bodies : Part.Uniform old body) :
    Script.Uniform fun name => catchBlock dialect test exception (filter name) (body name) :=
  ((Uniform.write _).append (.ite (fun _ => catchHeader_uniform dialect test exception filters)
    fun _ => .done)).append (bracedStatement_uniform _ _ bodies)

theorem goto_uniform (kind : GotoKind) (target : Option LabelTarget)
    {value : String → Option Part} (values : IfAny (Part.Uniform old) value) :
    Script.Uniform fun name => goto kind target (value name) := by
  refine ((Uniform.write _).append (.const _)).append ?_
  cases values with
  | none => exact .done
  | some value => exact (Uniform.write _).append (value.visit _)

theorem loop_uniform {body : String → Part} (bodies : Part.Uniform old body) :
    Script.Uniform fun name => loop (body name) :=
  (Uniform.write _).append (bracedStatement_uniform _ _ bodies)

end AqlPipeline.Render
