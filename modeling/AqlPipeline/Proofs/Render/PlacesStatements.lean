import AqlPipeline.Proofs.Script.Places
import AqlPipeline.Render.Statement

/-!
# Places of lambdas, blocks and statements

The parts of each statement, and where they are visited.  How a part stands there depends on the
statement, but not on when it is visited.
-/

namespace AqlPipeline.Render

open Script

variable {skips : Prop} {placed : String → Script → Prop} {dialect : Dialect}

theorem statementEnd_within (expr : Expr) : Within skips placed (statementEnd expr) := by
  unfold statementEnd
  split
  · split
    · exact .done
    · exact .write _
  all_goals first | exact .done | exact .write _

theorem bracedStatement_within {segment : String} {placement : Placement} {body : Part}
    (bodies : placed segment (body.scriptAt placement)) :
    Within skips placed (bracedStatement segment placement body) :=
  (((((Within.write _).append .openLines).append (.enter bodies)).append
    (statementEnd_within _)).append .closeLines).append (.write _)

theorem declaration_orderly (parameter : Parameter) : Orderly skips (declaration parameter) :=
  .alone (.single nofun)

theorem declarations_orderly (parameters : List Parameter) :
    ∀ script ∈ parameters.map declaration, Orderly skips script := by
  intro script member
  obtain ⟨parameter, -, rfl⟩ := List.mem_map.mp member
  exact declaration_orderly parameter

/-! ## Lambdas -/

theorem lambdaStatements_within {body : Part}
    (bodies : placed "Body" (body.scriptAt
      ⟨if !body.expr.type.isVoid && isLongBlock body.expr then .returning else .statements,
        false⟩)) :
    Within skips placed (lambdaStatements body) := by
  refine (((((Within.write _).append .openLines).append ?_).append (.enter bodies)).append
    (statementEnd_within _)).append .closeLines |>.append (.write _)
  split
  · exact .write _
  · exact .done

/-- A lambda visits its parameters and its body. -/
theorem lambda_orderly (parameters : List Parameter) {body : Part}
    (bodies : body.IsOrderly skips) : Orderly skips (lambda parameters body) := by
  have declared : ∀ script ∈ parameters.map declaration, Orderly skips script :=
    declarations_orderly parameters
  have ordered : Key.Ordered [.series "Parameters", .single "Body"] := by decide
  unfold lambda
  cases isInlined body.expr with
  | error error =>
      exact .at_one (.series "Parameters" (parameters.map declaration))
        (by decide : Key.Ordered [.series _])
        ((Within.inLine (.series _ _)).append (.fail error)) declared
  | ok inlined =>
      cases inlined with
      | true =>
          exact .at_two (.series "Parameters" (parameters.map declaration))
            (.single "Body" body.script) ordered
            ((Within.inLine (.series _ _)).append (.enter (.tail (.head ⟨rfl, rfl⟩)))) declared
            (.mem_single (bodies {}))
      | false =>
          exact .at_two (.series "Parameters" (parameters.map declaration)) (.single "Body" _)
            ordered
            ((Within.inLine (.series _ _)).append
              (lambdaStatements_within (.tail (.head ⟨rfl, rfl⟩)))) declared
            (.mem_single (bodies _))

/-! ## Blocks -/

theorem variableStatements_within {start : Nat} {parameters : List Parameter}
    (items : Items placed "Variables" start (parameters.map declaration)) :
    Within skips placed (variableStatements start parameters) := by
  induction parameters generalizing start with
  | nil => exact .done
  | cons parameter parameters ih =>
      exact (((Within.enter items.first).append (.write _)).append .breakLine).append
        (ih items.rest)

/-- What a statement of a block does where it stands. -/
def statementScript (returns : Bool) (body : Part) : Script :=
  body.scriptAt ⟨if returns && isLongBlock body.expr then .returning else .statements, true⟩

/-- What the statements of a block do. -/
def statementScripts (returning : Bool) : List Part → List Script
  | [] => []
  | [body] => [statementScript returning body]
  | body :: bodies => statementScript false body :: statementScripts returning bodies

theorem statement_within {segment : String} {returns : Bool} {body : Part}
    (bodies : placed segment (statementScript returns body)) :
    Within skips placed (statement segment returns body) := by
  refine Within.append ?_ (statementEnd_within _)
  unfold statementScript at bodies
  split
  · rename_i long
    rw [long] at bodies
    exact .enter bodies
  · rename_i short
    rw [Bool.eq_false_iff.mpr short] at bodies
    refine Within.append ?_ (.enter bodies)
    split
    · exact .write _
    · exact .done

theorem statementList_within {returning : Bool} {start : Nat} {parts : List Part}
    (items : Items placed "Expressions" start (statementScripts returning parts)) :
    ∀ script ∈ statementList returning start parts, Within skips placed script := by
  induction parts generalizing start with
  | nil => nofun
  | cons body parts ih =>
      cases parts with
      | nil => exact List.forall_mem_singleton.mpr (statement_within items.first)
      | cons second parts =>
          exact List.forall_mem_cons.mpr ⟨statement_within items.first, ih items.rest⟩

theorem statementScripts_orderly (returning : Bool) {parts : List Part}
    (orderly : ∀ part ∈ parts, part.IsOrderly skips) :
    ∀ script ∈ statementScripts returning parts, Orderly skips script := by
  induction parts with
  | nil => nofun
  | cons body parts ih =>
      obtain ⟨own, others⟩ := List.forall_mem_cons.mp orderly
      cases parts with
      | nil => exact List.forall_mem_singleton.mpr (own _)
      | cons second parts => exact List.forall_mem_cons.mpr ⟨own _, ih others⟩

/-- What the values of a sequence do. -/
def sequenceScripts (parts : List Part) : List Script :=
  parts.map (·.scriptAt ⟨.test, true⟩)

theorem sequenceItems_within {start : Nat} (isFirst followsLabel : Bool) {parts : List Part}
    (items : Items placed "Expressions" start (sequenceScripts parts)) :
    Within skips placed (sequenceItems start isFirst followsLabel parts) := by
  induction parts generalizing start isFirst followsLabel with
  | nil => exact .done
  | cons part parts ih =>
      refine (Within.append ?_ (.enter items.first)).append (ih _ _ items.rest)
      split
      · exact .done
      · split
        · exact .breakLine
        · exact .delimit _

theorem statements_within {locals : List Parameter} {parts : List Part} {placement : Placement}
    (visits : Items placed "Variables" 0 (locals.map declaration))
    (expressions : Items placed "Expressions" 0
      (statementScripts (placement.form == .returning) parts)) :
    Within skips placed (statements locals parts placement) := by
  have listed : Within skips placed (join breakLine
      (statementList (placement.form == .returning) 0 parts)) :=
    .join .breakLine (statementList_within expressions)
  have body := (variableStatements_within visits).append listed
  unfold statements
  split
  · exact ((((Within.write _).append .openLines).append body).append .closeLines).append (.write _)
  · exact body

theorem sequence_within {locals : List Parameter} {parts : List Part} (placement : Placement)
    (visits : Items placed "Variables" 0 (locals.map declaration))
    (expressions : Items placed "Expressions" 0 (sequenceScripts parts)) :
    Within skips placed (sequence locals parts placement) := by
  have declared : Within skips placed (onLines "Variables" ", " (locals.map declaration)) :=
    .onLines visits
  have body := declared.append (sequenceItems_within locals.isEmpty false expressions)
  dsimp only [sequence]
  split
  · exact body
  · split
    · exact ((((Within.write _).append .openLines).append body).append .closeLines).append
        (.write _)
    · exact (Within.openLines.append body).append .closeLines

/-- A block visits its variables and its expressions. -/
theorem block_orderly (locals : List Parameter) {parts : List Part} (placement : Placement)
    (orderly : ∀ part ∈ parts, part.IsOrderly skips) :
    Orderly skips (block locals parts placement) := by
  have ordered : Key.Ordered [.series "Variables", .series "Expressions"] := by decide
  have asStatements : Orderly skips (statements locals parts placement) :=
    .at_two (.series "Variables" (locals.map declaration))
      (.series "Expressions" (statementScripts (placement.form == .returning) parts)) ordered
      (statements_within (.series _ _) (.tail (.series _ _)))
      (declarations_orderly locals) (statementScripts_orderly _ orderly)
  have tests : ∀ script ∈ sequenceScripts parts, Orderly skips script := by
    intro script member
    obtain ⟨part, inside, rfl⟩ := List.mem_map.mp member
    exact orderly part inside _
  have asSequence : Orderly skips (sequence locals parts placement) :=
    .at_two (.series "Variables" (locals.map declaration))
      (.series "Expressions" (sequenceScripts parts)) ordered
      (sequence_within placement (.series _ _) (.tail (.series _ _)))
      (declarations_orderly locals) tests
  unfold block
  split
  · exact asStatements
  · exact asStatements
  · exact asSequence
  · exact asSequence

/-! ## Choices -/

theorem alternative_within {ifFalse : Part}
    (bodies : placed "IfFalse" (ifFalse.scriptAt ⟨.statements, false⟩)) :
    Within skips placed (alternative ifFalse) := by
  unfold alternative
  split
  · exact .done
  · refine (Within.write _).append ?_
    split
    · exact (Within.enter bodies).append (statementEnd_within _)
    · exact bracedStatement_within bodies

/-- A conditional visits its test and its two branches. -/
theorem conditional_orderly {test ifTrue ifFalse : Part} (type : TypeRef)
    (tests : test.IsOrderly skips) (trues : ifTrue.IsOrderly skips)
    (falses : ifFalse.IsOrderly skips) : Orderly skips (conditional test ifTrue ifFalse type) := by
  have ordered : Key.Ordered [.single "Test", .single "IfTrue", .single "IfFalse"] := by decide
  unfold conditional
  split
  · refine .at_three (.single "Test" (test.scriptAt ⟨.test, false⟩))
      (.single "IfTrue" (ifTrue.scriptAt ⟨.statements, false⟩))
      (.single "IfFalse" (ifFalse.scriptAt ⟨.statements, false⟩)) ordered ?_
      (.mem_single (tests _)) (.mem_single (trues _)) (.mem_single (falses _))
    exact ((((Within.write _).append (.enter (.head ⟨rfl, rfl⟩))).append (.write _)).append
      (bracedStatement_within (.tail (.head ⟨rfl, rfl⟩)))).append
      (alternative_within (.tail (.tail (.head ⟨rfl, rfl⟩))))
  · refine .at_three (.single "Test" test.script) (.single "IfTrue" ifTrue.script)
      (.single "IfFalse" ifFalse.script) ordered ?_ (.mem_single (tests _)) (.mem_single (trues _))
      (.mem_single (falses _))
    exact ((((Within.enter (.head ⟨rfl, rfl⟩)).append (.write _)).append
      (.enter (.tail (.head ⟨rfl, rfl⟩)))).append (.write _)).append
      (.enter (.tail (.tail (.head ⟨rfl, rfl⟩))))

theorem switchBody_within {segment : String} {body : Part}
    (bodies : placed segment (body.scriptAt ⟨.statements, false⟩)) :
    Within skips placed (switchBody segment body) :=
  (((Within.openLines.append (.enter bodies)).append (statementEnd_within _)).append
    .breakLine).append (.write _)

theorem caseValues_within {values : List Part}
    (items : Items placed "TestValues" 0 (values.map Part.script)) :
    Within skips placed (caseValues values) := by
  refine .join .breakLine fun script member => ?_
  obtain ⟨visited, inside, rfl⟩ := List.mem_map.mp member
  exact .between _ _ (Within.visits items visited inside)

/-- A case visits its values and its body. -/
theorem switchCase_orderly {values : List Part} {body : Part}
    (parts : ∀ part ∈ values, part.IsOrderly skips) (bodies : body.IsOrderly skips) :
    Orderly skips (switchCase values body) :=
  .at_two (.series "TestValues" (values.map Part.script))
    (.single "Body" (body.scriptAt ⟨.statements, false⟩))
    (by decide : Key.Ordered [.series _, .single _])
    ((caseValues_within (.series _ _)).append (switchBody_within (.tail (.head ⟨rfl, rfl⟩))))
    (Part.IsOrderly.scripts parts) (.mem_single (bodies _))

/-- What an optional part does at a placement. -/
def optionalScript (part : Option Part) (placement : Placement) : Script :=
  match part with
  | none => .done
  | some part => part.scriptAt placement

theorem optionalScript_orderly {part : Option Part}
    (orderly : ∀ own ∈ part, own.IsOrderly skips) (placement : Placement) :
    Orderly skips (optionalScript part placement) := by
  cases part with
  | none => exact .alone .done
  | some part => exact orderly part rfl placement

/-- A switch visits its subject, its cases and its default. -/
theorem switch_orderly {subject : Part} {cases : List Script} {defaultBody : Option Part}
    (subjects : subject.IsOrderly skips) (orderly : ∀ script ∈ cases, Orderly skips script)
    (defaults : ∀ part ∈ defaultBody, part.IsOrderly skips) :
    Orderly skips (switch subject cases defaultBody) := by
  refine .at_three (.series "Cases" cases)
    (.single "SwitchValue" (subject.scriptAt ⟨.test, false⟩))
    (.single "DefaultBody" (optionalScript defaultBody ⟨.statements, false⟩))
    (by decide : Key.Ordered [.series _, .single _, .single _]) ?_ orderly
    (.mem_single (subjects _)) (.mem_single (optionalScript_orderly defaults _))
  unfold switch
  refine (((Within.append ?_ (.join .breakLine ?_)).append ?_).append .closeLines).append (.write _)
  · exact (((Within.write _).append (.enter (.tail (.head ⟨rfl, rfl⟩)))).append (.write _)).append
      .openLines
  · intro script member
    obtain ⟨visited, inside, rfl⟩ := List.mem_map.mp member
    exact (Within.visits (.series _ _) visited inside).append .dedent
  · cases defaultBody with
    | none => exact .done
    | some body =>
        exact ((Within.breakLine.append (.write _)).append
          (switchBody_within (.tail (.tail (.head ⟨rfl, rfl⟩))))).append .dedent

/-! ## Exceptions -/

theorem clauseIfAny_within {word segment : String} {part : Option Part}
    (bodies : placed segment (optionalScript part {})) :
    Within skips placed (clauseIfAny word segment part) := by
  cases part with
  | none => exact .done
  | some part => exact (Within.write _).append (bracedStatement_within bodies)

/-- A body with handlers visits all of them, and what is done at the end. -/
theorem tryCatch_orderly {body : Part} {handlers : List Script} {fault finalizer : Option Part}
    (bodies : body.IsOrderly skips) (orderly : ∀ script ∈ handlers, Orderly skips script)
    (faults : ∀ part ∈ fault, part.IsOrderly skips)
    (finals : ∀ part ∈ finalizer, part.IsOrderly skips) :
    Orderly skips (tryCatch body handlers fault finalizer) := by
  refine .mk [.series "Handlers" handlers, .single "Body" (body.scriptAt {}),
    .single "Fault" (optionalScript fault {}), .single "Finally" (optionalScript finalizer {})]
    (by decide : Key.Ordered [.series _, .single _, .single _, .single _]) ?_ ?_
  · refine (((((Within.write _).append (bracedStatement_within (.tail (.head ⟨rfl, rfl⟩)))).append
      (.join .done ?_)).append (clauseIfAny_within (.tail (.tail (.head ⟨rfl, rfl⟩))))).append
      (clauseIfAny_within (.tail (.tail (.tail (.head ⟨rfl, rfl⟩))))))
    intro script member
    obtain ⟨visited, inside, rfl⟩ := List.mem_map.mp member
    exact (Within.write _).append (Within.visits (.series _ _) visited inside)
  · simp only [List.forall_mem_cons]
    exact ⟨orderly, .mem_single (bodies _), .mem_single (optionalScript_orderly faults _),
      .mem_single (optionalScript_orderly finals _), nofun⟩

/-- A handler visits its variable, its condition and its body. -/
theorem catchBlock_orderly (test : TypeRef) (exception : Option Parameter) {filter : Option Part}
    {body : Part} (filters : ∀ part ∈ filter, part.IsOrderly skips)
    (bodies : body.IsOrderly skips) :
    Orderly skips (catchBlock dialect test exception filter body) := by
  refine .at_three (.single "Variable" (write ((exception.map Parameter.name).getD "")))
    (.single "Filter" (optionalScript filter ⟨.test, false⟩))
    (.single "Body" (body.scriptAt ⟨.statements, false⟩))
    (by decide : Key.Ordered [.single _, .single _, .single _]) ?_
    (.mem_single (.alone (.write _))) (.mem_single (optionalScript_orderly filters _))
    (.mem_single (bodies _))
  refine ((Within.write _).append ?_).append
    (bracedStatement_within (.tail (.tail (.head ⟨rfl, rfl⟩))))
  split
  · unfold catchHeader
    refine (((Within.write _).append ?_).append (.write _)).append ?_
    · cases exception with
      | none => exact .done
      | some exception => exact (Within.write _).append (.enter (.head ⟨rfl, rfl⟩))
    · cases filter with
      | none => exact .done
      | some filter => exact .between _ _ (.enter (.tail (.head ⟨rfl, rfl⟩)))
  · exact .done

/-! ## Jumps, loops and comments -/

theorem label_orderly (target : LabelTarget) : Orderly skips (label target) :=
  .at_one (.single "Target" (labelTarget target)) (by decide : Key.Ordered [.single _])
    ((Within.enter (.head ⟨rfl, rfl⟩)).append (.write _)) (.mem_single (.alone (.write _)))

theorem goto_orderly (kind : GotoKind) (target : Option LabelTarget) {value : Option Part}
    (values : ∀ part ∈ value, part.IsOrderly skips) : Orderly skips (goto kind target value) := by
  refine .at_two (.single "Target" (write ((target.bind LabelTarget.name).getD "")))
    (.single "Value" (optionalScript value {})) (by decide : Key.Ordered [.single _, .single _]) ?_
    (.mem_single (.alone (.write _))) (.mem_single (optionalScript_orderly values _))
  refine ((Within.write _).append ?_).append ?_
  · cases target with
    | none => exact .done
    | some target =>
        dsimp only [jumpTarget]
        split
        · exact .done
        · exact (Within.write _).append (.enter (.head ⟨rfl, rfl⟩))
  · cases value with
    | none => exact .done
    | some value => exact (Within.write _).append (.enter (.tail (.head ⟨rfl, rfl⟩)))

theorem loop_orderly {body : Part} (bodies : body.IsOrderly skips) : Orderly skips (loop body) :=
  .at_one (.single "Body" (body.scriptAt ⟨.statements, false⟩))
    (by decide : Key.Ordered [.single _])
    ((Within.write _).append (bracedStatement_within (.head ⟨rfl, rfl⟩)))
    (.mem_single (bodies _))

theorem variablesGroup_orderly (locals : List Parameter) :
    Orderly skips (variablesGroup locals) := by
  refine .at_one (.series "Variables" (locals.map fun parameter => write parameter.name))
    (by decide : Key.Ordered [.series _]) ((Within.write _).append (.inLine (.series _ _))) ?_
  intro script member
  obtain ⟨parameter, -, rfl⟩ := List.mem_map.mp member
  exact .alone (.write _)

theorem debugMarker_orderly (marker : DebugMarker) : Orderly skips (debugMarker marker) := by
  unfold debugMarker
  split <;> exact .alone (.write _)

end AqlPipeline.Render
