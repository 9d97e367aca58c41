import AqlPipeline.Proofs.Render.Abides
import AqlPipeline.Render.Statement

/-!
# Lambdas, blocks and statements abide by rules

Statements stand in braces, tests and filters in parentheses.  Each pair is opened and closed by the
same form, whatever stands between.
-/

namespace AqlPipeline

open Script

/-- The names of a parameter that may get into a query. -/
def Parameter.texts (parameter : Parameter) : List String :=
  [parameter.name, parameter.type.name]

namespace Render

variable {rules : Rules} {dialect : Dialect}

theorem declaration_neutral {parameter : Parameter}
    (named : ∀ text ∈ parameter.texts, rules.Accepts text) :
    Neutral rules (declaration parameter) :=
  .single fun _ => ⟨named _ (by simp [Parameter.texts]), named _ (by simp [Parameter.texts]), rfl⟩

theorem declarations_neutral {parameters : List Parameter}
    (named : ∀ text ∈ parameters.flatMap Parameter.texts, rules.Accepts text) :
    ∀ script ∈ parameters.map declaration, Neutral rules script := by
  intro script member
  obtain ⟨parameter, inside, rfl⟩ := List.mem_map.mp member
  exact declaration_neutral fun text own => named text (List.mem_flatMap.mpr ⟨_, inside, own⟩)

theorem statementEnd_neutral (expr : Expr) : Neutral rules (statementEnd expr) := by
  have ended : Neutral rules (write ";") := .write (by decide)
  cases expr with
  | conditional test ifTrue ifFalse type =>
      simp only [statementEnd]
      split
      · exact .nothing
      · exact ended
  | block | switch | label | tryCatch | variablesGroup => exact .nothing
  | unary operator operand type =>
      cases operator with
      | quote => exact .nothing
      | _ => exact ended
  | _ => exact ended

theorem bracedStatement_neutral (segment : String) (placement : Placement) {body : Part}
    (bodies : body.IsNeutral rules) : Neutral rules (bracedStatement segment placement body) := by
  intro due
  have opened : Abides rules due (write "\x7b" ++ openLines) ('\x7d' :: due) :=
    .opensLines (by decide)
  have ended := (opened.append (bodies.visitAs segment placement _)).append
    (statementEnd_neutral body.expr _)
  exact ended.closesLines (by decide)

/-! ## Lambdas -/

/-- Only a group of variables cannot be the body of a lambda. -/
theorem isInlined_allowed {error : Error} : (expr : Expr) → isInlined expr = .error error →
    rules.allows error
  | .block [] [single] _, failed => isInlined_allowed single failed
  | .variablesGroup .., failed => by
    cases failed
    exact rules.allows_notSupported _ (Rules.accepts_of_balanced (by decide))
  | .block [] [] _, failed | .block [] (_ :: _ :: _) _, failed | .block (_ :: _) _ _, failed
  | .binary .., failed | .lambda .., failed | .parameter _, failed
  | .constant .., failed | .captured .., failed | .memberAccess .., failed | .newObject _, failed
  | .call .., failed | .memberInit .., failed | .listInit .., failed | .newArray .., failed
  | .conditional .., failed | .defaultValue _, failed | .typeTest .., failed
  | .invocation .., failed | .index .., failed | .switch .., failed | .tryCatch .., failed
  | .label .., failed | .goto .., failed | .loop .., failed | .debugMarker .., failed
  | .late .., failed => nomatch failed
  | .unary operator _ _, failed => by cases operator <;> nomatch failed

/-- A word in front of what is returned. -/
theorem returnIf_neutral (returns : Bool) :
    Neutral rules (if returns then write "return " else .done) := by
  split
  · exact .write (by decide)
  · exact .nothing

theorem lambdaStatements_neutral {body : Part} (bodies : body.IsNeutral rules) :
    Neutral rules (lambdaStatements body) := by
  intro due
  have opened : Abides rules due (write "\x7b" ++ openLines) ('\x7d' :: due) :=
    .opensLines (by decide)
  exact (((opened.append (returnIf_neutral _ _)).append (bodies.visitAs "Body" _ _)).append
    (statementEnd_neutral body.expr _)).closesLines (by decide)

theorem lambda_neutral {parameters : List Parameter} {body : Part}
    (named : ∀ text ∈ parameters.flatMap Parameter.texts, rules.Accepts text)
    (bodies : body.IsNeutral rules) : Neutral rules (lambda parameters body) := by
  refine (Neutral.inLine "Parameters" (by decide) (declarations_neutral named)).append ?_
  split
  · rename_i error failed
    exact fun _ => .fail (isInlined_allowed _ failed)
  · exact bodies.visit _
  · exact lambdaStatements_neutral bodies

/-! ## Blocks -/

theorem variableStatements_neutral (index : Nat) {locals : List Parameter}
    (named : ∀ text ∈ locals.flatMap Parameter.texts, rules.Accepts text) :
    Neutral rules (variableStatements index locals) := by
  induction locals generalizing index with
  | nil => exact .nothing
  | cons parameter locals ih =>
      obtain ⟨own, others⟩ := List.forall_mem_append.mp named
      have declared := (declaration_neutral own).enter (numbered "Variables" index)
      have rest := ih (index + 1) others
      exact ((declared.append (.write (by decide))).append .breakLine).append rest

theorem statement_neutral (segment : String) (returns : Bool) {body : Part}
    (bodies : body.IsNeutral rules) : Neutral rules (statement segment returns body) := by
  refine Neutral.append ?_ (statementEnd_neutral body.expr)
  split
  · exact bodies.visitAs _ _
  · exact (returnIf_neutral returns).append (bodies.visitAs _ _)

theorem statementList_neutral (returning : Bool) (index : Nat) {bodies : List Part}
    (neutral : ∀ part ∈ bodies, part.IsNeutral rules) :
    ∀ script ∈ statementList returning index bodies, Neutral rules script := by
  induction bodies generalizing index with
  | nil => nofun
  | cons body bodies ih =>
      obtain ⟨own, others⟩ := List.forall_mem_cons.mp neutral
      cases bodies with
      | nil => exact List.forall_mem_singleton.mpr (statement_neutral _ returning own)
      | cons second bodies =>
          exact List.forall_mem_cons.mpr ⟨statement_neutral _ false own, ih (index + 1) others⟩

theorem statements_neutral {locals : List Parameter} {expressions : List Part}
    (named : ∀ text ∈ locals.flatMap Parameter.texts, rules.Accepts text)
    (neutral : ∀ part ∈ expressions, part.IsNeutral rules) (placement : Placement) :
    Neutral rules (statements locals expressions placement) := by
  have listed := Neutral.join .breakLine
    (statementList_neutral (placement.form == .returning) 0 neutral)
  have body := (variableStatements_neutral 0 named).append listed
  unfold statements
  dsimp only
  split
  · exact body.enclosedLines '\x7d' (by decide) (by decide)
  · exact body

theorem sequenceItems_neutral (index : Nat) (isFirst followsLabel : Bool) {parts : List Part}
    (neutral : ∀ part ∈ parts, part.IsNeutral rules) :
    Neutral rules (sequenceItems index isFirst followsLabel parts) := by
  induction parts generalizing index isFirst followsLabel with
  | nil => exact .nothing
  | cons part parts ih =>
      obtain ⟨own, others⟩ := List.forall_mem_cons.mp neutral
      have divided : Neutral rules
          (if isFirst then .done
            else if followsLabel || isVariablesGroup part.expr then breakLine
            else delimit ", ") := by
        split
        · exact .nothing
        · split
          · exact .breakLine
          · exact .delimit (by decide)
      exact (divided.append (own.visitAs _ _)).append (ih (index + 1) false _ others)

theorem sequence_neutral {locals : List Parameter} {expressions : List Part}
    (named : ∀ text ∈ locals.flatMap Parameter.texts, rules.Accepts text)
    (neutral : ∀ part ∈ expressions, part.IsNeutral rules) (placement : Placement) :
    Neutral rules (sequence locals expressions placement) := by
  have declared := Neutral.onLines "Variables" (by decide : Text.Balanced ", ")
    (declarations_neutral named)
  have body := declared.append (sequenceItems_neutral 0 locals.isEmpty false neutral)
  unfold sequence
  dsimp only
  split
  · exact body
  · split
    · exact body.enclosedLines ')' (by decide) (by decide)
    · exact (Neutral.openLines.append body).append .closeLines

theorem block_neutral {locals : List Parameter} {expressions : List Part}
    (named : ∀ text ∈ locals.flatMap Parameter.texts, rules.Accepts text)
    (neutral : ∀ part ∈ expressions, part.IsNeutral rules) (placement : Placement) :
    Neutral rules (block locals expressions placement) := by
  unfold block
  split
  · exact statements_neutral named neutral placement
  · exact statements_neutral named neutral placement
  · exact sequence_neutral named neutral placement
  · exact sequence_neutral named neutral placement

/-! ## Choices -/

theorem alternative_neutral {ifFalse : Part} (bodies : ifFalse.IsNeutral rules) :
    Neutral rules (alternative ifFalse) := by
  unfold alternative
  split
  · exact .nothing
  · refine (Neutral.write (by decide)).append ?_
    split
    · exact (bodies.visitAs _ _).append (statementEnd_neutral _)
    · exact bracedStatement_neutral _ _ bodies

theorem conditional_neutral {test ifTrue ifFalse : Part} (type : TypeRef)
    (tests : test.IsNeutral rules) (trues : ifTrue.IsNeutral rules)
    (falses : ifFalse.IsNeutral rules) :
    Neutral rules (conditional test ifTrue ifFalse type) := by
  unfold conditional
  split
  · have tested : Neutral rules
        (write "if (" ++ test.visitAs "Test" ⟨.test, false⟩ ++ write ") ") :=
      (tests.visitAs _ _).enclosed ')' (by decide) (by decide)
    exact (tested.append (bracedStatement_neutral _ _ trues)).append (alternative_neutral falses)
  · exact ((((tests.visit _).append (.write (by decide))).append (trues.visit _)).append
      (.write (by decide))).append (falses.visit _)

theorem switchBody_neutral (segment : String) {body : Part} (bodies : body.IsNeutral rules) :
    Neutral rules (switchBody segment body) :=
  (((Neutral.openLines.append (bodies.visitAs segment _)).append
    (statementEnd_neutral body.expr)).append .breakLine).append (.write (by decide))

theorem caseValues_neutral {values : List Part}
    (neutral : ∀ part ∈ values, part.IsNeutral rules) : Neutral rules (caseValues values) := by
  refine .join .breakLine ?_
  intro script member
  obtain ⟨visited, inside, rfl⟩ := List.mem_map.mp member
  have value := Neutral.visits "TestValues" 0 (Part.IsNeutral.scripts neutral) visited inside
  exact ((Neutral.write (by decide)).append value).append (.write (by decide))

theorem switchCase_neutral {values : List Part} {body : Part}
    (neutral : ∀ part ∈ values, part.IsNeutral rules) (bodies : body.IsNeutral rules) :
    Neutral rules (switchCase values body) :=
  (caseValues_neutral neutral).append (switchBody_neutral _ bodies)

theorem switch_neutral {subject : Part} {cases : List Script} {defaultBody : Option Part}
    (subjects : subject.IsNeutral rules) (neutral : ∀ script ∈ cases, Neutral rules script)
    (defaults : ∀ part ∈ defaultBody, part.IsNeutral rules) :
    Neutral rules (switch subject cases defaultBody) := by
  have listed : Neutral rules (join breakLine ((visits "Cases" 0 cases).map (· ++ dedent))) := by
    refine .join .breakLine ?_
    intro script member
    obtain ⟨visited, inside, rfl⟩ := List.mem_map.mp member
    exact (Neutral.visits "Cases" 0 neutral visited inside).append .dedent
  intro due
  have opened : Abides rules due (write "switch (") (')' :: due) := .opens (by decide)
  -- one text closes the test and opens the cases
  have turned : Abides rules (')' :: due) (write ") \x7b") ('\x7d' :: due) :=
    .write (Rules.leads_of_nest (by decide : Text.nest [')'] _ = some ['\x7d']) due)
  have cased := ((((opened.append (subjects.visitAs "SwitchValue" ⟨.test, false⟩ _)).append
    turned).append (Neutral.openLines _)).append (listed _))
  have closed := fun {script : Script} (scripts : Neutral rules script) =>
    (cased.append (scripts _)).closesLines (by decide : Text.nest ['\x7d'] "\x7d".toList = some [])
  cases defaultBody with
  | none => exact closed .nothing
  | some body =>
      have labelled : Neutral rules (write "default:") := .write (by decide)
      exact closed (((Neutral.breakLine.append labelled).append
        (switchBody_neutral _ (defaults body rfl))).append .dedent)

/-! ## Exceptions -/

theorem clauseIfAny_neutral {word : String} (segment : String) {body : Option Part}
    (balanced : Text.Balanced word) (bodies : ∀ part ∈ body, part.IsNeutral rules) :
    Neutral rules (clauseIfAny word segment body) := by
  cases body with
  | none => exact .nothing
  | some body =>
      exact (Neutral.write balanced).append (bracedStatement_neutral segment {} (bodies body rfl))

theorem tryCatch_neutral {body : Part} {handlers : List Script} {fault finalizer : Option Part}
    (bodies : body.IsNeutral rules) (neutral : ∀ script ∈ handlers, Neutral rules script)
    (faults : ∀ part ∈ fault, part.IsNeutral rules)
    (finalizers : ∀ part ∈ finalizer, part.IsNeutral rules) :
    Neutral rules (tryCatch body handlers fault finalizer) := by
  have tried : Neutral rules (write "try " ++ bracedStatement "Body" {} body) :=
    (Neutral.write (by decide)).append (bracedStatement_neutral _ _ bodies)
  have caught :
      Neutral rules (join .done ((visits "Handlers" 0 handlers).map (write " " ++ ·))) := by
    refine .join .nothing ?_
    intro script member
    obtain ⟨visited, inside, rfl⟩ := List.mem_map.mp member
    exact (Neutral.write (by decide)).append (Neutral.visits "Handlers" 0 neutral visited inside)
  exact ((tried.append caught).append (clauseIfAny_neutral _ (by decide) faults)).append
    (clauseIfAny_neutral _ (by decide) finalizers)

theorem catchHeader_neutral (abides : dialect.AbidesBy rules) {test : TypeRef}
    {exception : Option Parameter} {filter : Option Part} (typed : rules.Accepts test.root.name)
    (named : ∀ parameter ∈ exception, rules.Accepts parameter.name)
    (filters : ∀ part ∈ filter, part.IsNeutral rules) :
    Neutral rules (catchHeader dialect test exception filter) := by
  intro due
  have opened : rules.Leads due ("(" ++ dialect.typeName test) (')' :: due) :=
    .append (Rules.leads_opening (by decide) due) ((abides.typeName test typed).leads _)
  refine .append (.append ((Abides.write opened).append (?thrown : Abides rules _ _ (')' :: due)))
    (.closes (by decide))) ?filtered
  case thrown =>
    cases exception with
    | none => exact .done
    | some exception =>
        have blank : Neutral rules (write " ") := .write (by decide)
        exact (blank.append ((Neutral.writes (named exception rfl)).enter _)) _
  case filtered =>
    cases filter with
    | none => exact .done
    | some filter =>
        exact ((filters filter rfl).visitAs _ _).enclosed ')' (by decide) (by decide) due

theorem catchBlock_neutral (abides : dialect.AbidesBy rules) {test : TypeRef}
    {exception : Option Parameter} {filter : Option Part} {body : Part}
    (typed : rules.Accepts test.root.name)
    (named : ∀ parameter ∈ exception, rules.Accepts parameter.name)
    (filters : ∀ part ∈ filter, part.IsNeutral rules) (bodies : body.IsNeutral rules) :
    Neutral rules (catchBlock dialect test exception filter body) := by
  refine (Neutral.append (.write (by decide)) ?_).append (bracedStatement_neutral _ _ bodies)
  split
  · exact catchHeader_neutral abides typed named filters
  · exact .nothing

/-! ## Jumps and loops -/

theorem labelTarget_neutral {target : LabelTarget}
    (named : ∀ name ∈ target.name, rules.Accepts name) : Neutral rules (labelTarget target) := by
  refine .writes ?_
  cases name_eq : target.name with
  | none => exact Rules.accepts_of_balanced (by decide)
  | some name => exact named name name_eq

theorem label_neutral {target : LabelTarget} (named : ∀ name ∈ target.name, rules.Accepts name) :
    Neutral rules (label target) :=
  ((labelTarget_neutral named).enter "Target").append (.write (by decide))

theorem jumpTarget_neutral {target : Option LabelTarget}
    (named : ∀ place ∈ target, ∀ name ∈ place.name, rules.Accepts name) :
    Neutral rules (jumpTarget target) := by
  cases target with
  | none => exact .nothing
  | some target =>
      simp only [jumpTarget]
      split
      · exact .nothing
      · exact (Neutral.write (by decide)).append ((labelTarget_neutral (named target rfl)).enter _)

theorem goto_neutral (kind : GotoKind) {target : Option LabelTarget} {value : Option Part}
    (named : ∀ place ∈ target, ∀ name ∈ place.name, rules.Accepts name)
    (values : ∀ part ∈ value, part.IsNeutral rules) : Neutral rules (goto kind target value) := by
  have worded : Neutral rules (write (jumpWord kind)) := by
    cases kind <;> exact .write (by decide)
  refine (worded.append (jumpTarget_neutral named)).append ?_
  cases value with
  | none => exact .nothing
  | some value => exact (Neutral.write (by decide)).append ((values value rfl).visit _)

theorem loop_neutral {body : Part} (bodies : body.IsNeutral rules) : Neutral rules (loop body) :=
  (Neutral.write (by decide)).append (bracedStatement_neutral _ _ bodies)

/-! ## Comments -/

theorem variablesGroup_neutral {locals : List Parameter}
    (named : ∀ parameter ∈ locals, rules.Accepts parameter.name) :
    Neutral rules (variablesGroup locals) := by
  refine (Neutral.write (by decide)).append (.inLine _ (by decide) ?_)
  intro script member
  obtain ⟨parameter, inside, rfl⟩ := List.mem_map.mp member
  exact .writes (named parameter inside)

theorem debugMarker_neutral {marker : DebugMarker} (named : rules.Accepts marker.document) :
    Neutral rules (debugMarker marker) := by
  have worded : ∀ {text}, Text.Balanced text → rules.Accepts text := Rules.accepts_of_balanced
  have numbered : ∀ number : UInt32, rules.Accepts (toString number) := fun number =>
    worded (bracketless_toString number.toNat).nests
  unfold debugMarker
  split
  · exact .writes ((worded (by decide)).append named)
  · have start := (((worded (by decide : Text.Balanced "// Debug to ")).append named).append
      (worded (by decide : Text.Balanced " -- L"))).append (numbered marker.startLine)
    have middle := ((start.append (worded (by decide : Text.Balanced "C"))).append
      (numbered marker.startColumn)).append (worded (by decide : Text.Balanced " : L"))
    exact .writes (((middle.append (numbered marker.endLine)).append
      (worded (by decide : Text.Balanced "C"))).append (numbered marker.endColumn))

end Render

end AqlPipeline
