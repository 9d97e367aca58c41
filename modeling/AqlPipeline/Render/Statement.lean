import AqlPipeline.Dialect
import AqlPipeline.Render.Part
import AqlPipeline.Text.Blank

/-!
# Lambdas, blocks and statements
-/

namespace AqlPipeline.Render

open Script

/-- Declares a parameter. -/
def declaration (parameter : Parameter) : Script :=
  .step (.declare parameter) .done

/-- Ends a statement, unless it ends with a brace or is a label. -/
def statementEnd : Expr → Script
  | .conditional _ _ _ type => if type.isVoid then .done else write ";"
  | .block .. | .switch .. | .label .. | .tryCatch .. | .variablesGroup .. => .done
  | .unary .quote _ _ => .done
  | _ => write ";"

/-- A statement in braces, on lines of its own. -/
def bracedStatement (segment : String) (placement : Placement) (body : Part) : Script :=
  write "\x7b" ++ openLines ++ body.visitAs segment placement ++ statementEnd body.expr ++
    closeLines ++ write "\x7d"

/-! ## Lambdas -/

/-- Whether a body is written as an expression instead of as statements. -/
def isInlined : Expr → Except Error Bool
  | .conditional _ _ _ type => .ok !type.isVoid
  | .block [] [] _ => .ok true
  | .block [] [single] _ => isInlined single
  | .block .. => .ok false
  | .switch .. | .lambda .. | .tryCatch .. => .ok false
  | .variablesGroup .. => .error (.notSupported "a variables group as the body of a lambda")
  | .unary .quote _ _ => .ok false
  | _ => .ok true

/-- Whether an expression is a block that takes more than one line. -/
def isLongBlock : Expr → Bool
  | .block locals expressions _ => Expr.hasMultipleLines locals expressions
  | _ => false

/-- The statements of a lambda. -/
def lambdaStatements (body : Part) : Script :=
  let returns := !body.expr.type.isVoid
  let long := isLongBlock body.expr
  write "\x7b" ++ openLines ++ (if returns && !long then write "return " else .done) ++
    body.visitAs "Body" ⟨if returns && long then .returning else .statements, false⟩ ++
    statementEnd body.expr ++ closeLines ++ write "\x7d"

/-- A lambda declares its parameters, and only its body is written. -/
def lambda (parameters : List Parameter) (body : Part) : Script :=
  inLine "Parameters" "" (parameters.map declaration) ++
    match isInlined body.expr with
    | .error error => .fail error
    | .ok true => body.visit "Body"
    | .ok false => lambdaStatements body

/-! ## Blocks -/

/-- The declarations of a block of statements. -/
def variableStatements : (index : Nat) → List Parameter → Script
  | _, [] => .done
  | index, parameter :: parameters =>
    .enter (numbered "Variables" index) (declaration parameter) ++ write ";" ++ breakLine ++
      variableStatements (index + 1) parameters

/-- A statement of a block; `returns` tells whether it gives the result. -/
def statement (segment : String) (returns : Bool) (body : Part) : Script :=
  (if returns && isLongBlock body.expr then body.visitAs segment ⟨.returning, true⟩
    else
      (if returns then write "return " else .done) ++ body.visitAs segment ⟨.statements, true⟩) ++
    statementEnd body.expr

/-- The statements of a block; if the block gives a result, the last one does. -/
def statementList (returning : Bool) : (index : Nat) → List Part → List Script
  | _, [] => []
  | index, [body] => [statement (numbered "Expressions" index) returning body]
  | index, body :: bodies =>
    statement (numbered "Expressions" index) false body ::
      statementList returning (index + 1) bodies

/-- A block in the place of a statement. It has braces if it declares variables inside of another
block. -/
def statements (locals : List Parameter) (expressions : List Part) (placement : Placement) :
    Script :=
  let body :=
    variableStatements 0 locals ++
      join breakLine (statementList (placement.form == .returning) 0 expressions)
  if !locals.isEmpty && placement.nested then
    write "\x7b" ++ openLines ++ body ++ closeLines ++ write "\x7d"
  else body

/-- Whether an expression is a label. -/
def isLabel : Expr → Bool
  | .label .. => true
  | _ => false

/-- Whether an expression is a group of variables. -/
def isVariablesGroup : Expr → Bool
  | .variablesGroup .. => true
  | _ => false

/-- The expressions of a sequence. Each but the first of all is behind a delimiter, or on a line of
its own if it is a group of variables or follows a label. -/
def sequenceItems : (index : Nat) → (isFirst followsLabel : Bool) → List Part → Script
  | _, _, _, [] => .done
  | index, isFirst, followsLabel, part :: parts =>
    (if isFirst then .done
      else if followsLabel || isVariablesGroup part.expr then breakLine else delimit ", ") ++
      part.visitAs (numbered "Expressions" index) ⟨.test, true⟩ ++
      sequenceItems (index + 1) false (isLabel part.expr) parts

/-- A block in the place of an expression: a sequence, in parentheses if it stands on its own. -/
def sequence (locals : List Parameter) (expressions : List Part) (placement : Placement) :
    Script :=
  let grouped := (1 < expressions.length && !placement.nested) || !locals.isEmpty
  let parenthesized := placement.form == .inline || placement.nested
  let body :=
    onLines "Variables" ", " (locals.map declaration) ++
      sequenceItems 0 locals.isEmpty false expressions
  if !grouped then body
  else if parenthesized then write "(" ++ openLines ++ body ++ closeLines ++ write ")"
  else openLines ++ body ++ closeLines

/-- A block. -/
def block (locals : List Parameter) (expressions : List Part) (placement : Placement) :
    Script :=
  match placement.form with
  | .statements | .returning => statements locals expressions placement
  | .inline | .test => sequence locals expressions placement

/-! ## Choices -/

/-- What follows if a test fails: nothing, another conditional, or a statement. -/
def alternative (ifFalse : Part) : Script :=
  if ifFalse.expr.isEmpty then .done
  else
    write " else " ++
      match ifFalse.expr with
      | .conditional .. =>
        ifFalse.visitAs "IfFalse" ⟨.statements, false⟩ ++ statementEnd ifFalse.expr
      | _ => bracedStatement "IfFalse" ⟨.statements, false⟩ ifFalse

/-- One of two expressions, or of two statements if there is no result. -/
def conditional (test ifTrue ifFalse : Part) (type : TypeRef) : Script :=
  if type.isVoid then
    write "if (" ++ test.visitAs "Test" ⟨.test, false⟩ ++ write ") " ++
      bracedStatement "IfTrue" ⟨.statements, false⟩ ifTrue ++ alternative ifFalse
  else
    test.visit "Test" ++ write " ? " ++ ifTrue.visit "IfTrue" ++ write " : " ++
      ifFalse.visit "IfFalse"

/-- A body of a switch, which stays indented. -/
def switchBody (segment : String) (body : Part) : Script :=
  openLines ++ body.visitAs segment ⟨.statements, false⟩ ++ statementEnd body.expr ++ breakLine ++
    write "break;"

/-- The values of a case. -/
def caseValues (values : List Part) : Script :=
  join breakLine <|
    (visits "TestValues" 0 (values.map Part.script)).map fun visited =>
      write "case " ++ visited ++ write ":"

/-- A case of a switch. The body stays indented. -/
def switchCase (values : List Part) (body : Part) : Script :=
  caseValues values ++ switchBody "Body" body

/-- A choice among cases. -/
def switch (subject : Part) (cases : List Script) (defaultBody : Option Part) : Script :=
  write "switch (" ++ subject.visitAs "SwitchValue" ⟨.test, false⟩ ++ write ") \x7b" ++ openLines ++
    join breakLine ((visits "Cases" 0 cases).map (· ++ dedent)) ++
    (match defaultBody with
      | none => .done
      | some body => breakLine ++ write "default:" ++ switchBody "DefaultBody" body ++ dedent) ++
    closeLines ++ write "\x7d"

/-! ## Exceptions -/

/-- A statement in braces behind a word, if there is one. -/
def clauseIfAny (word segment : String) : Option Part → Script
  | none => .done
  | some body => write word ++ bracedStatement segment {} body

/-- A body with handlers for its exceptions. -/
def tryCatch (body : Part) (handlers : List Script) (fault finalizer : Option Part) : Script :=
  write "try " ++ bracedStatement "Body" {} body ++
    join .done ((visits "Handlers" 0 handlers).map (write " " ++ ·)) ++
    clauseIfAny " fault " "Fault" fault ++ clauseIfAny " finally " "Finally" finalizer

/-- The header of a handler: what it catches, and under which condition. -/
def catchHeader (dialect : Dialect) (test : TypeRef) (exception : Option Parameter)
    (filter : Option Part) : Script :=
  write ("(" ++ dialect.typeName test) ++
    (match exception with
      | none => .done
      | some exception => write " " ++ .enter "Variable" (write exception.name)) ++
    write ") " ++
    match filter with
    | none => .done
    | some filter =>
      write "when (" ++ filter.visitAs "Filter" ⟨.test, false⟩ ++ write ") "

/-- A handler of exceptions. One that catches all and does not name the exception has no header. -/
def catchBlock (dialect : Dialect) (test : TypeRef) (exception : Option Parameter)
    (filter : Option Part) (body : Part) : Script :=
  write "catch " ++
    (if exception.isSome || test.name != "Exception" then
      catchHeader dialect test exception filter
    else .done) ++
    bracedStatement "Body" ⟨.statements, false⟩ body

/-! ## Jumps and loops -/

/-- The word of a jump. -/
def jumpWord : GotoKind → String
  | .breakTo => "break"
  | .continueTo => "continue"
  | .gotoTo => "goto"
  | .returnTo => "return"

/-- The place that a jump leads to. -/
def labelTarget (target : LabelTarget) : Script :=
  write (target.name.getD "")

/-- A place that can be jumped to. -/
def label (target : LabelTarget) : Script :=
  .enter "Target" (labelTarget target) ++ write ":"

/-- The target of a jump, if it has a name that is not blank. -/
def jumpTarget : Option LabelTarget → Script
  | none => .done
  | some target =>
    if Text.isAllBlank (target.name.getD "") then .done
    else write " " ++ .enter "Target" (labelTarget target)

/-- A jump. -/
def goto (kind : GotoKind) (target : Option LabelTarget) (value : Option Part) : Script :=
  write (jumpWord kind) ++ jumpTarget target ++
    match value with
    | none => .done
    | some value => write " " ++ value.visit "Value"

/-- An endless loop. -/
def loop (body : Part) : Script :=
  write "while (true) " ++ bracedStatement "Body" ⟨.statements, false⟩ body

/-! ## Comments -/

/-- A group of variables, as a comment. -/
def variablesGroup (locals : List Parameter) : Script :=
  write "// variables -- " ++
    inLine "Variables" ", " (locals.map fun parameter => write parameter.name)

/-- A place in the source, as a comment. -/
def debugMarker (marker : DebugMarker) : Script :=
  if marker.isClear then write ("// Clear debug info from " ++ marker.document)
  else
    write ("// Debug to " ++ marker.document ++ " -- L" ++ toString marker.startLine ++ "C" ++
      toString marker.startColumn ++ " : L" ++ toString marker.endLine ++ "C" ++
      toString marker.endColumn)

end AqlPipeline.Render
