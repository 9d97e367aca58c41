import AqlPipeline.Expr.Build
import AqlPipeline.Proofs.Script.Steps

/-!
# Stages with a lambda

The steps of a stage that is given a lambda: those of its source, then the words of its clause
around those of the body of the lambda.
-/

namespace AqlPipeline

/-- A method of query sources that is given a lambda, whose body it writes between words. -/
inductive LambdaStage where
  | filter
  | orderBy
  | orderByDescending
  | thenBy
  | thenByDescending
  | select
  deriving DecidableEq, Repr

namespace LambdaStage

/-- The name of the method. -/
def methodName : LambdaStage → String
  | .filter => "Where"
  | .orderBy => "OrderBy"
  | .orderByDescending => "OrderByDescending"
  | .thenBy => "ThenBy"
  | .thenByDescending => "ThenByDescending"
  | .select => "Select"

/-- What stands in front of the body. -/
def opening : LambdaStage → String
  | .filter => "\nFILTER "
  | .orderBy | .orderByDescending => "\nSORT "
  | .thenBy | .thenByDescending => ", "
  | .select => "\nRETURN "

/-- What stands behind the body, if anything does. -/
def closing? : LambdaStage → Option String
  | .filter | .select => none
  | .orderBy | .thenBy => some " ASC"
  | .orderByDescending | .thenByDescending => some " DESC"

/-- The steps of the clause, given those of the body. -/
def steps (stage : LambdaStage) (x : Parameter) (body : List Step) : List Step :=
  .write stage.opening :: .trim :: .indent :: .breakLine :: .declare x ::
    (body ++ .dedent :: (stage.closing?.map Step.write).toList)

end LambdaStage

open Script

namespace Expr

variable {dialect : Dialect}

/-- What a stage writes behind its source: its words around the lambda. -/
def clauseScript (dialect : Dialect) (stage : LambdaStage) (lambda : Expr) : Script :=
  write stage.opening ++ Script.enter "Arguments[1]" ((Expr.quoted lambda).script dialect {}) ++
    match stage.closing? with
    | some text => write text
    | none => .done

theorem stage_script (stage : LambdaStage) (source lambda : Expr) :
    (Expr.stage stage.methodName source lambda).script dialect {} =
      Script.enter "Arguments[0]" (source.script dialect {}) ++
        clauseScript dialect stage lambda := by
  cases stage <;> rfl

/-- A lambda that is passed on declares its parameter on a new line, and writes its body. -/
theorem quoted_function_script (x : Parameter) {body : Expr}
    (inlined : Render.isInlined body = .ok true) :
    (Expr.quoted (.function [x] body)).script dialect {} =
      .step .trim (openLines ++
        Script.enter "Operand" (Script.enter "Parameters[0]" (Render.declaration x) ++
          Script.enter "Body" (body.script dialect {})) ++ dedent) := by
  have lambda_eq : Render.lambda [x] ⟨body, body.script dialect⟩ =
      Script.enter "Parameters[0]" (Render.declaration x) ++
        Script.enter "Body" (body.script dialect {}) := by
    simp only [Render.lambda, inlined]
    rfl
  rw [← lambda_eq]
  rfl

theorem quoted_function_takes (x : Parameter) {body : Expr} {steps : List Step}
    (inlined : Render.isInlined body = .ok true)
    (bodies : (body.script dialect {}).Takes steps) :
    ((Expr.quoted (.function [x] body)).script dialect {}).Takes
      (.trim :: .indent :: .breakLine :: .declare x :: (steps ++ [.dedent])) := by
  rw [quoted_function_script x inlined]
  have operand := ((Takes.single (.declare x)).enter "Parameters[0]").append (bodies.enter "Body")
  have opened : openLines.Takes [.indent, .breakLine] := (Takes.single _).append (.single _)
  exact .step .trim ((opened.append (operand.enter "Operand")).append (.single .dedent))

theorem clause_takes (stage : LambdaStage) (x : Parameter) {body : Expr} {steps : List Step}
    (inlined : Render.isInlined body = .ok true)
    (bodies : (body.script dialect {}).Takes steps) :
    (clauseScript dialect stage (.function [x] body)).Takes (stage.steps x steps) := by
  have lambda := (quoted_function_takes x inlined bodies).enter "Arguments[1]"
  have closed : Takes
      (match stage.closing? with
        | some text => write text
        | none => .done) (stage.closing?.map Step.write).toList := by
    cases stage.closing? with
    | some text => exact .write text
    | none => exact .done
  have clause := ((Takes.write stage.opening).append lambda).append closed
  rw [LambdaStage.steps, clauseScript]
  simpa using clause

theorem stage_takes (stage : LambdaStage) (x : Parameter) {source body : Expr}
    {before steps : List Step} (inlined : Render.isInlined body = .ok true)
    (sources : (source.script dialect {}).Takes before)
    (bodies : (body.script dialect {}).Takes steps) :
    ((Expr.stage stage.methodName source (.function [x] body)).script dialect {}).Takes
      (before ++ stage.steps x steps) := by
  rw [stage_script]
  exact (sources.enter "Arguments[0]").append (clause_takes stage x inlined bodies)

end Expr

end AqlPipeline
