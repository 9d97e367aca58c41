import AqlPipeline.Proofs.Render.Alike

/-!
# Statements with a hidden change

Lambdas, blocks and statements are written alike if their parts are.
-/

namespace AqlPipeline.Render

open Script

variable {like : Likeness} {dialect : Dialect} {change : HiddenChange like dialect}

/-! ## Lambdas, blocks and statements -/

theorem declarations_alike (parameters : List Parameter) :
    List.Forall₂ (Script.Alike like) (parameters.map declaration) (parameters.map declaration) := by
  refine List.forall₂_same.mpr fun script member => ?_
  obtain ⟨parameter, -, rfl⟩ := List.mem_map.mp member
  exact .plain _ rfl .done

theorem statementEnd_alike (expr : Expr) :
    Script.Alike like (statementEnd expr) (statementEnd expr) := by
  unfold statementEnd
  split
  · split
    · exact .done
    · exact .write _
  all_goals first
    | exact .done
    | exact .write _

theorem bracedStatement_alike (segment : String) (placement : Placement) {body body' : Part}
    (bodies : Part.Alike change body body') :
    Script.Alike like (bracedStatement segment placement body)
      (bracedStatement segment placement body') := by
  unfold bracedStatement
  rw [bodies.expr_eq, statementEnd_onRight]
  exact (((((Script.Alike.write _).append .openLines).append (bodies.visitAs _ _)).append
    (statementEnd_alike _)).append .closeLines).append (.write _)

theorem lambdaStatements_alike {body body' : Part} (bodies : Part.Alike change body body') :
    Script.Alike like (lambdaStatements body) (lambdaStatements body') := by
  unfold lambdaStatements
  rw [bodies.expr_eq, Expr.type_onRight, isLongBlock_onRight, statementEnd_onRight]
  refine ((((((Script.Alike.write _).append .openLines).append ?_).append
    (bodies.visitAs _ _)).append (statementEnd_alike _)).append .closeLines).append (.write _)
  split
  · exact .write _
  · exact .done

theorem lambda_alike (parameters : List Parameter) {body body' : Part}
    (bodies : Part.Alike change body body') :
    Script.Alike like (lambda parameters body) (lambda parameters body') := by
  unfold lambda
  rw [bodies.expr_eq, isInlined_onRight]
  refine (Script.Alike.inLine _ _ (declarations_alike parameters)).append ?_
  split
  · exact .fail _
  · exact bodies.visit _
  · exact lambdaStatements_alike bodies

theorem variableStatements_alike (index : Nat) (parameters : List Parameter) :
    Script.Alike like (variableStatements index parameters)
      (variableStatements index parameters) := by
  induction parameters generalizing index with
  | nil => exact .done
  | cons parameter parameters ih =>
      exact (((Script.Alike.enter _ (.plain _ rfl .done)).append (.write _)).append
        .breakLine).append (ih (index + 1))

theorem statement_alike (segment : String) (returns : Bool) {body body' : Part}
    (bodies : Part.Alike change body body') :
    Script.Alike like (statement segment returns body) (statement segment returns body') := by
  unfold statement
  rw [bodies.expr_eq, isLongBlock_onRight, statementEnd_onRight]
  refine Script.Alike.append ?_ (statementEnd_alike _)
  split
  · exact bodies.visitAs _ _
  · refine Script.Alike.append ?_ (bodies.visitAs _ _)
    split
    · exact .write _
    · exact .done

theorem statementList_alike (returning : Bool) (index : Nat) {bodies bodies' : List Part}
    (alike : List.Forall₂ (Part.Alike change) bodies bodies') :
    List.Forall₂ (Script.Alike like) (statementList returning index bodies)
      (statementList returning index bodies') := by
  induction alike generalizing index with
  | nil => exact .nil
  | cons first others ih =>
      cases others with
      | nil => exact .cons (statement_alike _ _ first) .nil
      | cons => exact .cons (statement_alike _ _ first) (ih (index + 1))

theorem statements_alike (locals : List Parameter) (placement : Placement)
    {expressions expressions' : List Part}
    (alike : List.Forall₂ (Part.Alike change) expressions expressions') :
    Script.Alike like (statements locals expressions placement)
      (statements locals expressions' placement) := by
  have body := (@variableStatements_alike like 0 locals).append
    (.join .breakLine (statementList_alike (placement.form == .returning) 0 alike))
  unfold statements
  dsimp only
  split
  · exact ((((Script.Alike.write _).append .openLines).append body).append .closeLines).append
      (.write _)
  · exact body

theorem sequenceItems_alike (index : Nat) (isFirst followsLabel : Bool) {parts parts' : List Part}
    (alike : List.Forall₂ (Part.Alike change) parts parts') :
    Script.Alike like (sequenceItems index isFirst followsLabel parts)
      (sequenceItems index isFirst followsLabel parts') := by
  induction alike generalizing index isFirst followsLabel with
  | nil => exact .done
  | cons first _ ih =>
      simp only [sequenceItems, first.expr_eq, isVariablesGroup_onRight, isLabel_onRight]
      refine (Script.Alike.append ?_ (first.visitAs _ _)).append (ih _ _ _)
      split
      · exact .done
      · split
        · exact .breakLine
        · exact .delimit _

theorem sequence_alike (locals : List Parameter) (placement : Placement)
    {expressions expressions' : List Part}
    (alike : List.Forall₂ (Part.Alike change) expressions expressions') :
    Script.Alike like (sequence locals expressions placement)
      (sequence locals expressions' placement) := by
  have body := (Script.Alike.onLines "Variables" ", " (@declarations_alike like locals)).append
    (sequenceItems_alike 0 locals.isEmpty false alike)
  unfold sequence
  rw [alike.length_eq]
  dsimp only
  split
  · exact body
  · split
    · exact ((((Script.Alike.write _).append .openLines).append body).append .closeLines).append
        (.write _)
    · exact (Script.Alike.openLines.append body).append .closeLines

theorem block_alike (locals : List Parameter) (placement : Placement)
    {expressions expressions' : List Part}
    (alike : List.Forall₂ (Part.Alike change) expressions expressions') :
    Script.Alike like (block locals expressions placement)
      (block locals expressions' placement) := by
  unfold block
  cases placement.form with
  | statements | returning => exact statements_alike locals placement alike
  | inline | test => exact sequence_alike locals placement alike

theorem alternative_alike {ifFalse ifFalse' : Part}
    (alternatives : Part.Alike change ifFalse ifFalse') :
    Script.Alike like (alternative ifFalse) (alternative ifFalse') := by
  have braced := bracedStatement_alike "IfFalse" ⟨.statements, false⟩ alternatives
  have visited := (alternatives.visitAs "IfFalse" ⟨.statements, false⟩).append
    (statementEnd_alike ifFalse.expr)
  unfold alternative
  rw [alternatives.expr_eq, Expr.isEmpty_onRight, statementEnd_onRight]
  split
  · exact .done
  · refine (Script.Alike.write _).append ?_
    generalize ifFalse.expr = expr at visited
    cases expr with
    | conditional => exact visited
    | _ => exact braced

theorem conditional_alike (type : TypeRef) {test test' ifTrue ifTrue' ifFalse ifFalse' : Part}
    (tests : Part.Alike change test test') (consequences : Part.Alike change ifTrue ifTrue')
    (alternatives : Part.Alike change ifFalse ifFalse') :
    Script.Alike like (conditional test ifTrue ifFalse type)
      (conditional test' ifTrue' ifFalse' type) := by
  unfold conditional
  split
  · exact ((((Script.Alike.write _).append (tests.visitAs _ _)).append (.write _)).append
      (bracedStatement_alike _ _ consequences)).append (alternative_alike alternatives)
  · exact ((((tests.visit _).append (.write _)).append (consequences.visit _)).append
      (.write _)).append (alternatives.visit _)

theorem switchBody_alike (segment : String) {body body' : Part}
    (bodies : Part.Alike change body body') :
    Script.Alike like (switchBody segment body) (switchBody segment body') := by
  unfold switchBody
  rw [bodies.expr_eq, statementEnd_onRight]
  exact (((Script.Alike.openLines.append (bodies.visitAs _ _)).append
    (statementEnd_alike _)).append .breakLine).append (.write _)

theorem map_alike {change' : Script → Script} {scripts scripts' : List Script}
    (changed : ∀ {script script'}, Script.Alike like script script' →
      Script.Alike like (change' script) (change' script'))
    (alike : List.Forall₂ (Script.Alike like) scripts scripts') :
    List.Forall₂ (Script.Alike like) (scripts.map change') (scripts'.map change') := by
  induction alike with
  | nil => exact .nil
  | cons first _ ih => exact .cons (changed first) ih

theorem switchCase_alike {values values' : List Part} {body body' : Part}
    (alike : List.Forall₂ (Part.Alike change) values values')
    (bodies : Part.Alike change body body') :
    Script.Alike like (switchCase values body) (switchCase values' body') := by
  have visited := Script.Alike.visits "TestValues" 0 (Part.Alike.list_scripts alike)
  refine Script.Alike.append (.join .breakLine (map_alike ?_ visited))
    (switchBody_alike _ bodies)
  exact fun value => ((Script.Alike.write _).append value).append (.write _)

theorem switch_alike {subject subject' : Part} {cases cases' : List Script}
    {defaultBody defaultBody' : Option Part} (subjects : Part.Alike change subject subject')
    (alike : List.Forall₂ (Script.Alike like) cases cases')
    (defaults : Option.Rel (Part.Alike change) defaultBody defaultBody') :
    Script.Alike like (switch subject cases defaultBody)
      (switch subject' cases' defaultBody') := by
  have visited := Script.Alike.visits "Cases" 0 alike
  have listed := map_alike (fun first => first.append .dedent) visited
  refine ((((((Script.Alike.write _).append (subjects.visitAs _ _)).append (.write _)).append
    .openLines).append (.join .breakLine listed)).append ?_).append .closeLines |>.append (.write _)
  cases defaults with
  | none => exact .done
  | some body =>
      exact ((Script.Alike.breakLine.append (.write _)).append (switchBody_alike _ body)).append
        .dedent

/-! ## Exceptions, jumps and loops -/

theorem clauseIfAny_alike (word segment : String) {body body' : Option Part}
    (bodies : Option.Rel (Part.Alike change) body body') :
    Script.Alike like (clauseIfAny word segment body) (clauseIfAny word segment body') := by
  cases bodies with
  | none => exact .done
  | some body => exact (Script.Alike.write _).append (bracedStatement_alike _ _ body)

theorem tryCatch_alike {body body' : Part} {handlers handlers' : List Script}
    {fault fault' finalizer finalizer' : Option Part} (bodies : Part.Alike change body body')
    (alike : List.Forall₂ (Script.Alike like) handlers handlers')
    (faults : Option.Rel (Part.Alike change) fault fault')
    (finalizers : Option.Rel (Part.Alike change) finalizer finalizer') :
    Script.Alike like (tryCatch body handlers fault finalizer)
      (tryCatch body' handlers' fault' finalizer') := by
  have visited := Script.Alike.visits "Handlers" 0 alike
  have listed := map_alike (fun first => (Script.Alike.write " ").append first) visited
  exact ((((Script.Alike.write _).append (bracedStatement_alike _ _ bodies)).append
    (.join .done listed)).append (clauseIfAny_alike _ _ faults)).append
      (clauseIfAny_alike _ _ finalizers)

theorem catchBlock_alike (test : TypeRef) (exception : Option Parameter)
    {filter filter' : Option Part} {body body' : Part}
    (filters : Option.Rel (Part.Alike change) filter filter')
    (bodies : Part.Alike change body body') :
    Script.Alike like (catchBlock dialect test exception filter body)
      (catchBlock dialect test exception filter' body') := by
  have header : Script.Alike like (catchHeader dialect test exception filter)
      (catchHeader dialect test exception filter') := by
    refine (((Script.Alike.write _).append ?_).append (.write _)).append ?_
    · cases exception with
      | none => exact .done
      | some exception => exact (Script.Alike.write _).append (.enter _ (.write _))
    · cases filters with
      | none => exact .done
      | some filter =>
          exact ((Script.Alike.write _).append (filter.visitAs _ _)).append (.write _)
  refine ((Script.Alike.write _).append ?_).append (bracedStatement_alike _ _ bodies)
  split
  · exact header
  · exact .done

theorem label_alike (target : LabelTarget) : Script.Alike like (label target) (label target) :=
  (Script.Alike.enter _ (.write _)).append (.write _)

theorem goto_alike (kind : GotoKind) (target : Option LabelTarget) {value value' : Option Part}
    (values : Option.Rel (Part.Alike change) value value') :
    Script.Alike like (goto kind target value) (goto kind target value') := by
  refine ((Script.Alike.write _).append ?_).append ?_
  · unfold jumpTarget
    split
    · exact .done
    · split
      · exact .done
      · exact (Script.Alike.write _).append (.enter _ (.write _))
  · cases values with
    | none => exact .done
    | some value => exact (Script.Alike.write _).append (value.visit _)

theorem loop_alike {body body' : Part} (bodies : Part.Alike change body body') :
    Script.Alike like (loop body) (loop body') :=
  (Script.Alike.write _).append (bracedStatement_alike _ _ bodies)

theorem variablesGroup_alike (locals : List Parameter) :
    Script.Alike like (variablesGroup locals) (variablesGroup locals) := by
  refine (Script.Alike.write _).append (.inLine _ _ (List.forall₂_same.mpr ?_))
  intro script member
  obtain ⟨parameter, -, rfl⟩ := List.mem_map.mp member
  exact .write _

theorem debugMarker_alike (marker : DebugMarker) :
    Script.Alike like (debugMarker marker) (debugMarker marker) := by
  unfold debugMarker
  split <;> exact .write _

end AqlPipeline.Render
