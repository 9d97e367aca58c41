import AqlPipeline.Proofs.Render.Tidy
import AqlPipeline.Render.Statement

/-!
# Lambdas, blocks and statements are tidy

Statements stand on lines of their own.  Only the name of a place that is jumped to could put spaces
in front of a part; it must not have any.
-/

namespace AqlPipeline.Render

open Script

variable {dialect : Dialect} {room : Room}

theorem declaration_tidy (parameter : Parameter) : Tidy room (declaration parameter) room :=
  .single nofun fun _ _ holds => holds

theorem declarations_tidy (parameters : List Parameter) :
    ∀ script ∈ parameters.map declaration, Tidy room script room := by
  intro script member
  obtain ⟨parameter, -, rfl⟩ := List.mem_map.mp member
  exact declaration_tidy parameter

theorem statementEnd_tidy (expr : Expr) : Tidy room (statementEnd expr) .any := by
  have nothing : Tidy room .done .any := .done (Room.implies_any _)
  cases expr with
  | conditional test ifTrue ifFalse type =>
      simp only [statementEnd]
      split
      · exact nothing
      · exact .write _
  | block | switch | label | tryCatch | variablesGroup => exact nothing
  | unary operator operand type =>
      cases operator with
      | quote => exact nothing
      | _ => exact .write _
  | _ => exact .write _

theorem bracedStatement_tidy (segment : String) (placement : Placement) {body : Part}
    (bodies : body.IsTidy) : Tidy room (bracedStatement segment placement body) .any := by
  have opened : Tidy room (write "\x7b" ++ openLines) .ready := .openBrace
  have visited := opened.append (bodies.visitAs segment placement)
  exact ((visited.append (statementEnd_tidy body.expr)).append .closeLines).append (.write _)

/-! ## Lambdas -/

/-- A word in front of what is returned. -/
theorem returnIf_tidy (returns : Bool) :
    Tidy .ready (if returns then write "return " else .done) .ready := by
  split
  · exact .write_ready (by decide)
  · exact .nothing

theorem lambdaStatements_tidy {body : Part} (bodies : body.IsTidy) :
    Tidy room (lambdaStatements body) .any := by
  have opened : Tidy room (write "\x7b" ++ openLines) .ready := .openBrace
  exact ((((opened.append (returnIf_tidy _)).append (bodies.visitAs "Body" _)).append
    (statementEnd_tidy body.expr)).append .closeLines).append (.write _)

theorem lambda_tidy (parameters : List Parameter) {body : Part} (bodies : body.IsTidy) :
    Tidy .ready (lambda parameters body) .any := by
  -- declaring parameters does not write anything
  have declared : Tidy .ready (inLine "Parameters" "" (parameters.map declaration)) .ready :=
    .join (.refl _) .write_empty (.visits "Parameters" 0 (declarations_tidy parameters))
  refine declared.append ?_
  split
  · exact .fail _
  · exact bodies.visit _
  · exact lambdaStatements_tidy bodies

/-! ## Blocks -/

theorem variableStatements_tidy (index : Nat) (locals : List Parameter) :
    Tidy .ready (variableStatements index locals) .ready := by
  induction locals generalizing index with
  | nil => exact .nothing
  | cons parameter locals ih =>
      have declared : Tidy .ready (enter (numbered "Variables" index) (declaration parameter))
          .ready := (declaration_tidy parameter).enter _
      exact ((declared.append (.write _)).append .breakLine).append (ih (index + 1))

theorem statement_tidy (segment : String) (returns : Bool) {body : Part} (bodies : body.IsTidy) :
    Tidy .ready (statement segment returns body) .any := by
  have ended : ∀ {script}, Tidy .ready script .any →
      Tidy .ready (script ++ statementEnd body.expr) .any := fun scripts =>
    scripts.append (statementEnd_tidy body.expr)
  apply ended
  split
  · exact bodies.visitAs _ _
  · exact (returnIf_tidy returns).append (bodies.visitAs _ _)

theorem statementList_tidy (returning : Bool) (index : Nat) {bodies : List Part}
    (tidy : ∀ part ∈ bodies, part.IsTidy) :
    ∀ script ∈ statementList returning index bodies, Tidy .ready script .any := by
  induction bodies generalizing index with
  | nil => nofun
  | cons body bodies ih =>
      obtain ⟨own, others⟩ := List.forall_mem_cons.mp tidy
      cases bodies with
      | nil => exact List.forall_mem_singleton.mpr (statement_tidy _ returning own)
      | cons second bodies =>
          exact List.forall_mem_cons.mpr ⟨statement_tidy _ false own, ih (index + 1) others⟩

theorem statements_tidy (locals : List Parameter) {expressions : List Part}
    (tidy : ∀ part ∈ expressions, part.IsTidy) (placement : Placement) :
    Tidy .ready (statements locals expressions placement) .any := by
  have listed := Tidy.join (Room.implies_any _) .breakLine
    (statementList_tidy (placement.form == .returning) 0 tidy)
  have body := (variableStatements_tidy 0 locals).append listed
  unfold statements
  dsimp only
  split
  · exact ((Tidy.openBrace.append body).append .closeLines).append (.write _)
  · exact body

theorem sequenceItems_tidy (index : Nat) (isFirst followsLabel : Bool) {parts : List Part}
    (tidy : ∀ part ∈ parts, part.IsTidy) :
    Tidy (if isFirst then .ready else .any) (sequenceItems index isFirst followsLabel parts)
      .any := by
  induction parts generalizing index isFirst followsLabel with
  | nil => exact .done (Room.implies_any _)
  | cons part parts ih =>
      obtain ⟨own, others⟩ := List.forall_mem_cons.mp tidy
      have divided : Tidy (if isFirst then .ready else .any)
          (if isFirst then .done
            else if followsLabel || isVariablesGroup part.expr then breakLine else delimit ", ")
          .ready := by
        cases isFirst with
        | true => exact .nothing
        | false =>
            simp only [Bool.false_eq_true, if_false]
            split
            · exact .breakLine
            · exact .delimit _
      exact (divided.append (own.visitAs _ _)).append (ih (index + 1) false _ others)

theorem sequence_tidy (locals : List Parameter) {expressions : List Part}
    (tidy : ∀ part ∈ expressions, part.IsTidy) (placement : Placement) :
    Tidy .ready (sequence locals expressions placement) .any := by
  have declared : Tidy .ready (onLines "Variables" ", " (locals.map declaration)) .ready :=
    .onLines _ _ (.refl _) (declarations_tidy locals)
  have items : Tidy .ready (sequenceItems 0 locals.isEmpty false expressions) .any := by
    refine (sequenceItems_tidy 0 locals.isEmpty false tidy).weaken ?_ (.refl _)
    split
    · exact .refl _
    · exact Room.implies_any _
  have body := declared.append items
  have opened : ∀ {room}, Tidy room (write "(" ++ openLines) .ready :=
    (Tidy.write _).append .openLines
  unfold sequence
  dsimp only
  split
  · exact body
  · split
    · exact ((opened.append body).append .closeLines).append (.write _)
    · exact ((Tidy.openLines.append body).append .closeLines).loosen

theorem block_tidy (locals : List Parameter) {expressions : List Part}
    (tidy : ∀ part ∈ expressions, part.IsTidy) (placement : Placement) :
    Tidy .ready (block locals expressions placement) .any := by
  unfold block
  split
  · exact statements_tidy locals tidy placement
  · exact statements_tidy locals tidy placement
  · exact sequence_tidy locals tidy placement
  · exact sequence_tidy locals tidy placement

/-! ## Choices -/

theorem alternative_tidy {ifFalse : Part} (bodies : ifFalse.IsTidy) :
    Tidy room (alternative ifFalse) .any := by
  have worded : Tidy room (write " else ") .ready := .write_ready (by decide)
  unfold alternative
  split
  · exact .done (Room.implies_any _)
  · refine worded.append ?_
    split
    · exact (bodies.visitAs _ _).append (statementEnd_tidy _)
    · exact bracedStatement_tidy _ _ bodies

theorem conditional_tidy {test ifTrue ifFalse : Part} (type : TypeRef) (tests : test.IsTidy)
    (trues : ifTrue.IsTidy) (falses : ifFalse.IsTidy) :
    Tidy .ready (conditional test ifTrue ifFalse type) .any := by
  unfold conditional
  split
  · have worded : Tidy .ready (write "if (") .ready := .write_ready (by decide)
    have tested := (worded.append (tests.visitAs "Test" ⟨.test, false⟩)).append (.write ") ")
    exact (tested.append (bracedStatement_tidy _ _ trues)).append (alternative_tidy falses)
  · have asked : Tidy .any (write " ? ") .ready := .write_ready (by decide)
    have divided : Tidy .any (write " : ") .ready := .write_ready (by decide)
    exact ((((tests.visit _).append asked).append (trues.visit _)).append divided).append
      (falses.visit _)

theorem switchBody_tidy (segment : String) {body : Part} (bodies : body.IsTidy) :
    Tidy room (switchBody segment body) .any := by
  have opened : Tidy room openLines .ready := .openLines
  have visited := opened.append (bodies.visitAs segment ⟨.statements, false⟩)
  exact ((visited.append (statementEnd_tidy body.expr)).append .breakLine).append (.write _)

theorem caseValues_tidy {values : List Part} (tidy : ∀ part ∈ values, part.IsTidy) :
    Tidy .any (caseValues values) .any := by
  have divided : Tidy .any breakLine .ready := .breakLine
  refine .join (.refl _) divided.loosen ?_
  intro script member
  obtain ⟨visited, inside, rfl⟩ := List.mem_map.mp member
  have worded : Tidy .any (write "case ") .ready := .write_ready (by decide)
  have value := Tidy.visits "TestValues" 0 (Part.IsTidy.scripts tidy) visited inside
  exact (worded.append value).append (.write _)

theorem switchCase_tidy {values : List Part} {body : Part} (tidy : ∀ part ∈ values, part.IsTidy)
    (bodies : body.IsTidy) : Tidy .any (switchCase values body) .any :=
  (caseValues_tidy tidy).append (switchBody_tidy _ bodies)

theorem switch_tidy {subject : Part} {cases : List Script} {defaultBody : Option Part}
    (subjects : subject.IsTidy) (tidy : ∀ script ∈ cases, Tidy .any script .any)
    (defaults : ∀ part ∈ defaultBody, part.IsTidy) :
    Tidy room (switch subject cases defaultBody) .any := by
  have worded : Tidy room (write "switch (") .ready := .write_ready (by decide)
  have opened := ((worded.append (subjects.visitAs "SwitchValue" ⟨.test, false⟩)).append
    (.write ") \x7b")).append .openLines
  have divided : Tidy .any breakLine .ready := .breakLine
  have listed : Tidy .any (join breakLine ((visits "Cases" 0 cases).map (· ++ dedent))) .any := by
    refine .join (.refl _) divided.loosen ?_
    intro script member
    obtain ⟨visited, inside, rfl⟩ := List.mem_map.mp member
    exact (Tidy.visits "Cases" 0 tidy visited inside).append .dedent
  have closed := fun {script : Script} (scripts : Tidy .any script .any) =>
    (((opened.loosen.append listed).append scripts).append .closeLines).append (.write "\x7d")
  cases defaultBody with
  | none => exact closed .nothing
  | some body =>
      have labelled := divided.append (.write "default:")
      exact closed ((labelled.append (switchBody_tidy _ (defaults body rfl))).append .dedent)

/-! ## Exceptions -/

theorem clauseIfAny_tidy (word segment : String) {body : Option Part}
    (bodies : ∀ part ∈ body, part.IsTidy) : Tidy .any (clauseIfAny word segment body) .any := by
  cases body with
  | none => exact .nothing
  | some body => exact (Tidy.write word).append (bracedStatement_tidy segment {} (bodies body rfl))

theorem tryCatch_tidy {body : Part} {handlers : List Script} {fault finalizer : Option Part}
    (bodies : body.IsTidy) (tidy : ∀ script ∈ handlers, Tidy .any script .any)
    (faults : ∀ part ∈ fault, part.IsTidy) (finalizers : ∀ part ∈ finalizer, part.IsTidy) :
    Tidy room (tryCatch body handlers fault finalizer) .any := by
  have worded : Tidy room (write "try ") .any := .write _
  have tried := worded.append (bracedStatement_tidy "Body" {} bodies)
  have caught :
      Tidy .any (join .done ((visits "Handlers" 0 handlers).map (write " " ++ ·))) .any := by
    refine .join (.refl _) .nothing ?_
    intro script member
    obtain ⟨visited, inside, rfl⟩ := List.mem_map.mp member
    exact (Tidy.write " ").append (Tidy.visits "Handlers" 0 tidy visited inside)
  exact ((tried.append caught).append (clauseIfAny_tidy _ _ faults)).append
    (clauseIfAny_tidy _ _ finalizers)

theorem catchHeader_tidy (test : TypeRef) (exception : Option Parameter) {filter : Option Part}
    (filters : ∀ part ∈ filter, part.IsTidy) :
    Tidy room (catchHeader dialect test exception filter) .any := by
  have typed : Tidy room (write ("(" ++ dialect.typeName test)) .any := .write _
  refine .append (.append (typed.append (?named : Tidy .any _ .any)) (.write ") ")) ?filtered
  case named =>
    cases exception with
    | none => exact .nothing
    | some exception => exact (Tidy.write " ").append ((Tidy.write exception.name).enter _)
  case filtered =>
    cases filter with
    | none => exact .nothing
    | some filter =>
        have worded : Tidy .any (write "when (") .ready := .write_ready (by decide)
        exact (worded.append ((filters filter rfl).visitAs _ _)).append (.write _)

theorem catchBlock_tidy (test : TypeRef) (exception : Option Parameter) {filter : Option Part}
    {body : Part} (filters : ∀ part ∈ filter, part.IsTidy) (bodies : body.IsTidy) :
    Tidy room (catchBlock dialect test exception filter body) .any := by
  have headed : Tidy .any
      (if exception.isSome || test.name != "Exception" then
        catchHeader dialect test exception filter
      else .done) .any := by
    split
    · exact catchHeader_tidy test exception filters
    · exact .nothing
  exact ((Tidy.write "catch ").append headed).append (bracedStatement_tidy _ _ bodies)

/-! ## Jumps and loops -/

theorem label_tidy (target : LabelTarget) : Tidy room (label target) .any :=
  ((Tidy.write _).enter "Target").append (.write _)

/-- Behind the name of a place that is jumped to there are few spaces if it ends with few. -/
theorem jumpTarget_tidy {target : Option LabelTarget}
    (narrow : ∀ place ∈ target, ¬ Text.isAllBlank (place.name.getD "") →
      Text.trailingSpaces (place.name.getD "").toList ≤ 4) :
    Tidy .tight (jumpTarget target) .tight := by
  cases target with
  | none => exact .nothing
  | some target =>
      simp only [jumpTarget]
      split
      · exact .nothing
      · rename_i notBlank
        have solid : ∃ char ∈ (target.name.getD "").toList, char ≠ ' ' := by
          have named := notBlank
          rw [Text.isAllBlank, List.all_eq_true] at named
          obtain ⟨char, member, other⟩ := not_forall₂.mp named
          refine ⟨char, member, ?_⟩
          rintro rfl
          exact other rfl
        have ends : Text.EndsWithin 4 (target.name.getD "") :=
          ⟨solid, narrow target rfl notBlank⟩
        exact Tidy.write_space.append ((Tidy.write_tight ends).enter _)

/-- A jump without a value may have any name. -/
theorem bareJump_tidy (target : Option LabelTarget) : Tidy room (jumpTarget target) .any := by
  cases target with
  | none => exact .done (Room.implies_any _)
  | some target =>
      simp only [jumpTarget]
      split
      · exact .done (Room.implies_any _)
      · exact (Tidy.write _).append ((Tidy.write _).enter _)

theorem goto_tidy (kind : GotoKind) {target : Option LabelTarget} {value : Option Part}
    (narrow : value.isSome → ∀ place ∈ target, ¬ Text.isAllBlank (place.name.getD "") →
      Text.trailingSpaces (place.name.getD "").toList ≤ 4)
    (values : ∀ part ∈ value, part.IsTidy) : Tidy room (goto kind target value) .any := by
  have worded : Tidy room (write (jumpWord kind)) .tight := by
    cases kind <;> exact .write_tight (by decide)
  cases value with
  | none => exact (worded.append (bareJump_tidy target)).append (.done (Room.implies_any _))
  | some value =>
      refine (worded.append (jumpTarget_tidy (narrow rfl))).append ?_
      exact Tidy.write_space.append ((values value rfl).visit _)

theorem loop_tidy {body : Part} (bodies : body.IsTidy) : Tidy room (loop body) .any :=
  (Tidy.write _).append (bracedStatement_tidy _ _ bodies)

/-! ## Comments -/

theorem variablesGroup_tidy (locals : List Parameter) : Tidy room (variablesGroup locals) .any := by
  refine (Tidy.write _).append (.join (.refl _) (.write _) (.visits _ 0 ?_))
  intro script member
  obtain ⟨parameter, -, rfl⟩ := List.mem_map.mp member
  exact .write _

theorem debugMarker_tidy (marker : DebugMarker) : Tidy room (debugMarker marker) .any := by
  unfold debugMarker
  split <;> exact .write _

end AqlPipeline.Render
