import AqlPipeline.Proofs.BindTable.Literals
import AqlPipeline.Proofs.Expr.HiddenChange
import AqlPipeline.Proofs.Expr.Stages
import AqlPipeline.Proofs.Query.Finish

/-!
# Pipelines over members of the rows

Stages whose lambdas read members of their own parameter, compare them and combine them, and limits
with rows to leave out.  Each stage adds its clause to the text; only the first parameter becomes
known, and the numbers of rows to leave out are kept apart until the end.  So the writer between two
stages is told by the text so far, the constants bound, what is known and the rows to leave out.
-/

namespace AqlPipeline

/-! ## What a lambda says about a row -/

/-- How a value is compared. -/
inductive Comparison where
  | equal
  | notEqual
  | greaterThanOrEqual
  | greaterThan
  | lessThan
  | lessThanOrEqual
  deriving DecidableEq, Repr

namespace Comparison

/-- The operator. -/
def operator : Comparison → BinaryOperator
  | .equal => .equal
  | .notEqual => .notEqual
  | .greaterThanOrEqual => .greaterThanOrEqual
  | .greaterThan => .greaterThan
  | .lessThan => .lessThan
  | .lessThanOrEqual => .lessThanOrEqual

/-- How it is written. -/
def symbol : Comparison → String
  | .equal => "=="
  | .notEqual => "!="
  | .greaterThanOrEqual => ">="
  | .greaterThan => ">"
  | .lessThan => "<"
  | .lessThanOrEqual => "<="

end Comparison

/-- An operator that is written between its operands. -/
structure InfixOperator where
  /-- The operator. -/
  operator : BinaryOperator
  /-- How it is written. -/
  symbol : String
  /-- The operator has that symbol. -/
  symbol_eq : operator.symbol? = some symbol

/-- What is read from a row. -/
inductive RowTerm where
  /-- A member. -/
  | member (name : String) (type : TypeRef)
  /-- Two terms with an operator between them. -/
  | operation (operator : InfixOperator) (left right : RowTerm) (type : TypeRef)
  /-- A term that is compared with a constant. -/
  | compared (comparison : Comparison) (left : RowTerm) (value : Json) (valueType type : TypeRef)

namespace RowTerm

/-- The body of a lambda with a parameter. -/
def expr (x : Parameter) : RowTerm → Expr
  | .member name type => .memberOf (.parameter x) name type
  | .operation operator left right type =>
    .binary operator.operator (left.expr x) (right.expr x) type
  | .compared comparison left value valueType type =>
    .binary comparison.operator (left.expr x) (.constant value valueType) type

/-- The constants, in order. -/
def constants : RowTerm → List Json
  | .member .. => []
  | .operation _ left right _ => left.constants ++ right.constants
  | .compared _ left value _ _ => left.constants ++ [value]

/-- The members as they are written, in order. -/
def members : RowTerm → List String
  | .member name _ => [Render.attributeName name]
  | .operation _ left right _ => left.members ++ right.members
  | .compared _ left _ _ _ => left.members

/-- The text, when so many constants have been bound. -/
def text (suffix : Nat → String) (x : String) : (bound : Nat) → RowTerm → String
  | _, .member name _ => x ++ ("." ++ Render.attributeName name)
  | bound, .operation operator left right _ =>
    left.text suffix x bound ++ (" " ++ operator.symbol ++ " ") ++
      right.text suffix x (bound + left.constants.length)
  | bound, .compared comparison left _ _ _ =>
    left.text suffix x bound ++ (" " ++ comparison.symbol ++ " ") ++
      ("@" ++ literalNameAt suffix (bound + left.constants.length))

/-- The steps that write it. -/
def steps (x : Parameter) : RowTerm → List Step
  | .member name _ => [.write x.name, .write ("." ++ Render.attributeName name)]
  | .operation operator left right _ =>
    left.steps x ++ .write (" " ++ operator.symbol ++ " ") :: right.steps x
  | .compared comparison left value _ _ =>
    left.steps x ++ [.write (" " ++ comparison.symbol ++ " "), .bindLiteral value]

theorem staticValue?_expr (x : Parameter) (term : RowTerm) : (term.expr x).staticValue? = none := by
  induction term with
  | member name type => rfl
  | operation _ _ _ _ leftIh _ | compared _ _ _ _ _ leftIh =>
      simp [expr, Expr.staticValue?_binary, Expr.joinedTexts?, leftIh]

theorem mentionsParameter_expr (x : Parameter) (term : RowTerm) :
    (term.expr x).mentionsParameter = true := by
  induction term with
  | member name type => rfl
  | operation _ _ _ _ leftIh _ | compared _ _ _ _ _ leftIh =>
      rw [expr, Expr.mentionsParameter, leftIh, Bool.true_or]

theorem isInlined_expr (x : Parameter) (term : RowTerm) :
    Render.isInlined (term.expr x) = .ok true := by
  cases term <;> rfl

open Script

/-- A term on the right of an operator is written: its value is not known. -/
theorem rightOperand_expr (operator : BinaryOperator) (segment : String) (x : Parameter)
    (term : RowTerm) :
    Render.rightOperand operator segment ⟨term.expr x, (term.expr x).script .aql⟩ =
      Script.enter segment ((term.expr x).script .aql {}) := by
  have unknown := staticValue?_expr x term
  have mentions := mentionsParameter_expr x term
  unfold Render.rightOperand
  simp only [unknown]
  cases term with
  | member name type => exact ite_self _
  | operation | compared =>
      rw [expr] at mentions
      simp only [expr, mentions, if_true]
      exact ite_self _

theorem rightOperand_constant (comparison : Comparison) (segment : String) (value : Json)
    (type : TypeRef) :
    Render.rightOperand comparison.operator segment
      ⟨.constant value type, (Expr.constant value type).script .aql⟩ = bindLiteral value := by
  have compares : comparison.operator.isComparison = true := by cases comparison <;> rfl
  have known : (Expr.constant value type).staticValue? = some value := rfl
  simp only [Render.rightOperand, known, compares]
  split <;> rfl

theorem expr_takes (x : Parameter) (term : RowTerm) :
    ((term.expr x).script .aql {}).Takes (term.steps x) := by
  induction term with
  | member name type => exact ((Takes.write x.name).enter "Expression").append (.write _)
  | operation operator left right type leftIh rightIh =>
      have script_eq : ((operation operator left right type).expr x).script .aql {} =
          Script.enter "Left" ((left.expr x).script .aql {}) ++
            write (" " ++ operator.symbol ++ " ") ++
            Script.enter "Right" ((right.expr x).script .aql {}) := by
        rw [← rightOperand_expr operator.operator "Right"]
        simp only [expr, Expr.script, Render.binary, operator.symbol_eq]
        rfl
      rw [script_eq]
      simpa [steps] using ((leftIh.enter "Left").append (.write _)).append (rightIh.enter "Right")
  | compared comparison left value valueType type leftIh =>
      have symbol_eq : comparison.operator.symbol? = some comparison.symbol := by
        cases comparison <;> rfl
      have script_eq : ((RowTerm.compared comparison left value valueType type).expr x).script
            .aql {} =
          Script.enter "Left" ((left.expr x).script .aql {}) ++
            write (" " ++ comparison.symbol ++ " ") ++ bindLiteral value := by
        rw [← rightOperand_constant comparison "Right" value valueType]
        simp only [expr, Expr.script, Render.binary, symbol_eq]
        rfl
      have bound : (bindLiteral value).Takes [.bindLiteral value] := .single _
      rw [script_eq]
      simpa [steps] using ((leftIh.enter "Left").append (.write _)).append bound

end RowTerm

/-! ## Stages -/

/-- A stage of a pipeline over rows. -/
inductive RowStage where
  /-- A stage with a lambda over its own parameter. -/
  | lambda (stage : LambdaStage) (x : Parameter) (term : RowTerm)
  /-- Keeps a number of rows. -/
  | take (count : Int64)
  /-- Leaves out a number of rows. -/
  | skip (count : Int64)

namespace RowStage

/-- The stage at the end of a pipeline. -/
def onto (source : Expr) : RowStage → Expr
  | .lambda stage x term => .stage stage.methodName source (.function [x] (term.expr x))
  | .take count => .countStage "Take" source count.toInt
  | .skip count => .countStage "Skip" source count.toInt

/-- The pipeline of some stages over a source of rows. -/
def pipeline (element : TypeRef) (stages : List RowStage) : Expr :=
  stages.foldl onto (.source element)

/-- Whether rows are left out. -/
def isSkip : RowStage → Bool
  | .skip _ => true
  | _ => false

/-- Whether rows are counted. -/
def isPaging : RowStage → Bool
  | .lambda .. => false
  | .take _ | .skip _ => true

/-- The constants, in order. -/
def constants : RowStage → List Json
  | .lambda _ _ term => term.constants
  | _ => []

/-- The numbers of rows to leave out. -/
def skips : RowStage → List Int
  | .skip count => [count.toInt]
  | _ => []

/-- The names in the clause, as they are written. -/
def names : RowStage → List String
  | .lambda _ x term => x.name :: term.members
  | _ => []

/-- The clause, when so many constants have been bound.  Rows to leave out have none. -/
def clause (suffix : Nat → String) (bound : Nat) : RowStage → String
  | .lambda stage x term =>
    stage.opening ++ term.text suffix x.name bound ++ stage.closing?.getD ""
  | .take count => "\nLIMIT " ++ toString count.toInt
  | .skip _ => ""

/-- The clauses of some stages, when so many constants have been bound before. -/
def clauses (suffix : Nat → String) : (bound : Nat) → List RowStage → String
  | _, [] => ""
  | bound, stage :: stages =>
    stage.clause suffix bound ++ clauses suffix (bound + stage.constants.length) stages

/-- The steps of a stage. -/
def steps : RowStage → List Step
  | .lambda stage x term => stage.steps x (term.steps x)
  | .take count => [.write ("\nLIMIT " ++ toString count.toInt)]
  | .skip count => [.skip count.toInt]

theorem clauses_append (suffix : Nat → String) (bound : Nat) (first second : List RowStage) :
    clauses suffix bound (first ++ second) =
      clauses suffix bound first ++
        clauses suffix (bound + (first.flatMap constants).length) second := by
  induction first generalizing bound with
  | nil => simp [clauses]
  | cons stage first ih =>
      simp [clauses, ih, String.append_assoc, Nat.add_assoc]

open Script

theorem int64?_toInt (count : Int64) : Json.int64? (.integer count.toInt) = some count.toInt := by
  have lower := count.le_toInt
  have upper := count.toInt_lt
  rw [Json.int64?, if_pos]
  constructor <;> omega

theorem rowCount_intConstant (stage : Stage) (count : Int64) (use : Int → Script) :
    Render.rowCount stage (Expr.parts .aql [.intConstant count.toInt]) use = use count.toInt := by
  have known : (Expr.intConstant count.toInt).staticValue?.bind Json.int64? = some count.toInt :=
    int64?_toInt count
  simp only [Render.rowCount, Expr.parts, known]

theorem take_takes {source : Expr} {before : List Step} (count : Int64)
    (sources : (source.script .aql {}).Takes before) :
    ((Expr.countStage "Take" source count.toInt).script .aql {}).Takes
      (before ++ [.write ("\nLIMIT " ++ toString count.toInt)]) := by
  have script_eq : (Expr.countStage "Take" source count.toInt).script .aql {} =
      Script.enter "Arguments[0]" (source.script .aql {}) ++
        Render.rowCount .take (Expr.parts .aql [.intConstant count.toInt]) fun count =>
          write ("\nLIMIT " ++ toString count) := rfl
  rw [script_eq, rowCount_intConstant]
  exact (sources.enter _).append (.write _)

theorem skip_takes {source : Expr} {before : List Step} (count : Int64)
    (sources : (source.script .aql {}).Takes before) :
    ((Expr.countStage "Skip" source count.toInt).script .aql {}).Takes
      (before ++ [.skip count.toInt]) := by
  have script_eq : (Expr.countStage "Skip" source count.toInt).script .aql {} =
      Script.enter "Arguments[0]" (source.script .aql {}) ++
        Render.rowCount .skip (Expr.parts .aql [.intConstant count.toInt]) fun count =>
          .step (.skip count) .done := rfl
  rw [script_eq, rowCount_intConstant]
  exact (sources.enter _).append (.single _)

/-- A stage takes the steps of its source, and then its own. -/
theorem onto_takes {source : Expr} {before : List Step} (stage : RowStage)
    (sources : (source.script .aql {}).Takes before) :
    ((stage.onto source).script .aql {}).Takes (before ++ stage.steps) := by
  cases stage with
  | lambda stage x term =>
      exact Expr.stage_takes stage x (term.isInlined_expr x) sources (term.expr_takes x)
  | take count => exact take_takes count sources
  | skip count => exact skip_takes count sources

theorem foldl_onto_takes {source : Expr} {before : List Step}
    (sources : (source.script .aql {}).Takes before) (stages : List RowStage) :
    ((stages.foldl onto source).script .aql {}).Takes (before ++ stages.flatMap steps) := by
  induction stages generalizing source before with
  | nil => simpa using sources
  | cons stage stages ih =>
      have taken := ih (onto_takes stage sources)
      rwa [List.append_assoc] at taken

theorem pipeline_takes (element : TypeRef) (stages : List RowStage) :
    ((pipeline element stages).script .aql {}).Takes (.write "" :: stages.flatMap steps) := by
  have sources : ((Expr.source element).script .aql {}).Takes [.write ""] := .write ""
  exact foldl_onto_takes sources stages

/-! ## The writer between two stages -/

/-- The writer behind some text at a level of indentation, with some constants bound. -/
def reached (suffix : Nat → String) (settings : Settings) (facts : Facts) (skips : List Int)
    (text : String) (level : Nat) (values : List Json) : Writer :=
  { Writer.startWith suffix settings with
    output := ⟨text, level, false⟩
    binds := .ofLiterals suffix values
    facts
    skips }

/-- What is known behind a stage: its parameter. -/
def learnt (facts : Facts) : RowStage → Facts
  | .lambda _ x _ => (facts.learnCollection x.type.name).learnIterator x.name
  | _ => facts

section Reached

variable {suffix : Nat → String} (settings : Settings) (facts : Facts) (skips : List Int)
  (text : String) (level : Nat) (values : List Json)

@[simp] theorem reached_write (more : String) :
    (reached suffix settings facts skips text level values).apply (.write more) =
      reached suffix settings facts skips (text ++ more) level values := rfl

@[simp] theorem reached_trim :
    (reached suffix settings facts skips text level values).apply .trim =
      reached suffix settings facts skips text level values := rfl

@[simp] theorem reached_breakLine :
    (reached suffix settings facts skips text level values).apply .breakLine =
      reached suffix settings facts skips text level values := rfl

@[simp] theorem reached_indent :
    (reached suffix settings facts skips text level values).apply .indent =
      reached suffix settings facts skips text (level + 1) values := rfl

@[simp] theorem reached_dedent :
    (reached suffix settings facts skips text (level + 1) values).apply .dedent =
      reached suffix settings facts skips text level values := rfl

@[simp] theorem reached_declare (x : Parameter) :
    (reached suffix settings facts skips text level values).apply (.declare x) =
      reached suffix settings ((facts.learnCollection x.type.name).learnIterator x.name) skips text
        level values := rfl

@[simp] theorem reached_skip (count : Int) :
    (reached suffix settings facts skips text level values).apply (.skip count) =
      reached suffix settings facts (skips ++ [count]) text level values := rfl

variable (distinct : Function.Injective suffix)

include distinct

theorem reached_bindLiteral (value : Json) :
    (reached suffix settings facts skips text level values).apply (.bindLiteral value) =
      reached suffix settings facts skips (text ++ ("@" ++ literalNameAt suffix values.length)) level
        (values ++ [value]) := by
  have registered : (reached suffix settings facts skips text level values).binds.register
      Writer.literalName value = _ := BindTable.register_ofLiterals distinct values value
  rw [Writer.apply, Writer.bindLiteral, registered]
  rfl

theorem reached_term (x : Parameter) (term : RowTerm) :
    (reached suffix settings facts skips text level values).takeSteps (term.steps x) =
      reached suffix settings facts skips (text ++ term.text suffix x.name values.length) level
        (values ++ term.constants) := by
  induction term generalizing text values with
  | member name type =>
      simp [RowTerm.steps, RowTerm.text, RowTerm.constants, String.append_assoc]
  | operation operator left right type leftIh rightIh =>
      simp [RowTerm.steps, RowTerm.text, RowTerm.constants, Writer.takeSteps_append, leftIh,
        rightIh, String.append_assoc]
  | compared comparison left value valueType type leftIh =>
      simp [RowTerm.steps, RowTerm.text, RowTerm.constants, Writer.takeSteps_append, leftIh,
        reached_bindLiteral _ _ _ _ _ _ distinct, String.append_assoc]

/-- A stage adds its clause, its constants, its parameter and its rows to leave out. -/
theorem reached_stage (stage : RowStage) :
    (reached suffix settings facts skips text 0 values).takeSteps stage.steps =
      reached suffix settings (stage.learnt facts) (skips ++ stage.skips)
        (text ++ stage.clause suffix values.length) 0 (values ++ stage.constants) := by
  cases stage with
  | lambda stage x term =>
      simp only [steps, LambdaStage.steps, Writer.takeSteps_cons, Writer.takeSteps_append,
        reached_write, reached_trim, reached_indent, reached_breakLine, reached_declare,
        reached_term _ _ _ _ _ _ distinct, reached_dedent]
      cases closing : stage.closing? <;>
        simp [learnt, clause, constants, RowStage.skips, closing, String.append_assoc]
  | take count => simp [steps, learnt, clause, constants, RowStage.skips]
  | skip count => simp [steps, learnt, clause, constants, RowStage.skips]

theorem reached_stages (stages : List RowStage) :
    (reached suffix settings facts skips text 0 values).takeSteps (stages.flatMap steps) =
      reached suffix settings (stages.foldl learnt facts) (skips ++ stages.flatMap RowStage.skips)
        (text ++ clauses suffix values.length stages) 0 (values ++ stages.flatMap constants) := by
  induction stages generalizing facts skips text values with
  | nil => simp [clauses]
  | cons stage stages ih =>
      rw [List.flatMap_cons, Writer.takeSteps_append, reached_stage _ _ _ _ _ distinct, ih]
      simp [clauses, String.append_assoc]

end Reached

/-! ## The query -/

/-- The first parameter of a lambda. -/
def firstParameter? : List RowStage → Option Parameter
  | [] => none
  | .lambda _ x _ :: _ => some x
  | _ :: stages => firstParameter? stages

/-- The iteration variable: the first parameter, if there is one. -/
def iterator (settings : Settings) (stages : List RowStage) : String :=
  ((firstParameter? stages).map Parameter.name).getD settings.defaultIterator

/-- What is iterated over: the set collection, or the type of the first parameter. -/
def collection (settings : Settings) (stages : List RowStage) : String :=
  (settings.collection.or ((firstParameter? stages).map fun x => x.type.name)).getD ""

/-- The head of the loop. -/
def header (settings : Settings) (stages : List RowStage) : String :=
  "FOR " ++ iterator settings stages ++ " IN " ++ collection settings stages

/-- The clauses with the rows to leave out in the first limit. -/
def body (suffix : Nat → String) (stages : List RowStage) : String :=
  .ofList ((stages.flatMap skips).foldl Writer.patchedText (clauses suffix 0 stages).toList)

/-- A return of the iteration variable, unless the clauses mention one. -/
def footer (suffix : Nat → String) (settings : Settings) (stages : List RowStage) : String :=
  if Text.occursIn "return".toList (clauses suffix 0 stages).toList then ""
  else "\nRETURN " ++ iterator settings stages

theorem foldl_learnt (facts : Facts) (stages : List RowStage) :
    stages.foldl learnt facts =
      { facts with
        collection := facts.collection.or ((firstParameter? stages).map fun x => x.type.name)
        iterator := facts.iterator.or ((firstParameter? stages).map Parameter.name) } := by
  induction stages generalizing facts with
  | nil => simp [firstParameter?]
  | cons stage stages ih =>
      cases stage with
      | lambda stage x term =>
          simp [ih, learnt, firstParameter?, Facts.learnCollection, Facts.learnIterator]
      | take count => exact ih facts
      | skip count => exact ih facts

/-- A compact query of a pipeline over rows: a loop over the clauses with the rows to leave out in
their first limit, and a return unless the clauses mention one. -/
theorem compile_pipeline {suffix : Nat → String} (distinct : Function.Injective suffix)
    {settings : Settings} (compact : settings.pretty = false) (element : TypeRef)
    (stages : List RowStage) :
    ∃ spans, Query.compileWith suffix .aql settings (pipeline element stages) = .ok
      { text := header settings stages ++ body suffix stages ++ footer suffix settings stages
        binds := literalEntries suffix (stages.flatMap constants)
        spans
        gaps := []
        projectionType := none } := by
  have started : Writer.startWith suffix settings =
      reached suffix settings ⟨settings.collection, none, none⟩ [] "" 0 [] := by
    simp only [Writer.startWith, Writer.start, compact]
    rfl
  obtain ⟨trail, -, compiled⟩ :=
    Query.compileWith_of_takes (pipeline_takes element stages) suffix compact
  rw [started, Writer.takeSteps_cons, reached_write, reached_stages _ _ _ _ _ distinct,
    foldl_learnt] at compiled
  generalize written_eq : Writer.atTrail _ trail = written at compiled
  obtain ⟨spans, finish_eq⟩ := written.finish_eq
  refine ⟨spans, ?_⟩
  rw [compiled, finish_eq, ← written_eq]
  simp only [reached, Writer.atTrail, Writer.header, Writer.footer, Writer.iterator,
    Output.contains, header, iterator, collection, body, footer, BindTable.ofLiterals,
    Writer.startWith, Writer.start, String.append_empty, String.empty_append, List.nil_append,
    List.length_nil, Option.none_or, Option.getD_or]

end RowStage

end AqlPipeline
