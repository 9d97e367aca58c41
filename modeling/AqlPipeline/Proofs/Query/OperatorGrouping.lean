import AqlPipeline.Proofs.Expr.Arithmetic
import AqlPipeline.Proofs.Expr.Stages
import AqlPipeline.Proofs.Query.Finish

/-!
# Grouping of operators

A projection of a calculation returns its text.  Whatever the rows come from, the query tells that
text, and with it the value of a calculation that needs no parentheses.  It does not tell the value
of others.
-/

namespace AqlPipeline

namespace Arithmetic

/-- The steps that write a calculation. -/
def steps (x : String) : Arithmetic → List Step
  | .field member _ => [.write x, .write ("." ++ Render.attributeName member.name)]
  | .constant value _ => [.write (toString value)]
  | .binary operator left right _ =>
    left.steps x ++ .write (" " ++ String.singleton operator.symbol ++ " ") :: right.steps x

theorem takeSteps_steps (writer : Writer) (x : String) (tree : Arithmetic) :
    writer.takeSteps (tree.steps x) = writer.append (tree.text x) := by
  have append_append : ∀ (writer : Writer) (first second : String),
      (writer.append first).append second = writer.append (first ++ second) := by
    intro writer first second
    simp [Writer.append, Writer.onOutput, Output.append, String.append_assoc]
  induction tree generalizing writer with
  | field member type => exact append_append ..
  | constant value type => rfl
  | binary operator left right type leftIh rightIh =>
      rw [steps, Writer.takeSteps_append, leftIh, Writer.takeSteps_cons, rightIh, text,
        Writer.apply, append_append, append_append]

theorem expr_type (x : Parameter) (tree : Arithmetic) :
    ∃ type : NumberType, (tree.expr x).type = type.1 := by
  cases tree with
  | field member type => exact ⟨type, rfl⟩
  | constant value type => exact ⟨type, rfl⟩
  | binary operator left right type => exact ⟨type, rfl⟩

/-- No operand of a calculation is a string, and no operator compares. -/
theorem rightOperand_expr (x : Parameter) (operator : ArithmeticOperator) (right : Arithmetic) :
    Render.rightOperand operator.operator "Right"
        ⟨right.expr x, (right.expr x).script .aql⟩ =
      .enter "Right" ((right.expr x).script .aql {}) := by
  have noString : (right.expr x).type.isString = false := by
    obtain ⟨type, type_eq⟩ := expr_type x right
    rw [type_eq]
    exact type.hasKind_eq_false (by decide)
  have noComparison : operator.operator.isComparison = false := by
    cases operator <;> rfl
  rw [Render.rightOperand, noString]
  cases right with
  | field member type => rfl
  | constant value type =>
      simp only [expr, noComparison]
      rfl
  | binary inner left right type => rfl

theorem literal_constant (value : Int) (type : NumberType) :
    Dialect.aql.literal (.integer value) type.1 = toString value := by
  have noSource : type.1.isQueryable = false := type.hasKind_eq_false (by decide)
  have noVoid : type.1.isVoid = false := type.hasKind_eq_false (by decide)
  change Dialect.spellLiteral (.integer value) type.1 = _
  rw [Dialect.spellLiteral, noSource, noVoid]
  rfl

open Script in
theorem expr_takes (x : Parameter) (tree : Arithmetic) :
    ((tree.expr x).script .aql {}).Takes (tree.steps x.name) := by
  induction tree with
  | field member type => exact ((Takes.write x.name).enter "Expression").append (.write _)
  | constant value type =>
      rw [steps, ← literal_constant value type]
      exact .write _
  | binary operator left right type leftIh rightIh =>
      have script_eq : ((Arithmetic.binary operator left right type).expr x).script .aql {} =
          Script.enter "Left" ((left.expr x).script .aql {}) ++
            write (" " ++ String.singleton operator.symbol ++ " ") ++
            Render.rightOperand operator.operator "Right"
              ⟨right.expr x, (right.expr x).script .aql⟩ := by
        cases operator <;> rfl
      rw [script_eq, rightOperand_expr]
      have left_takes := (leftIh.enter "Left").append
        (.write (" " ++ String.singleton operator.symbol ++ " "))
      simpa [steps] using left_takes.append (rightIh.enter "Right")

theorem isInlined_expr (x : Parameter) (tree : Arithmetic) :
    Render.isInlined (tree.expr x) = .ok true := by
  cases tree <;> rfl

/-- The results of a calculation for the rows of a source. -/
def projection (x : Parameter) (source : Expr) (tree : Arithmetic) : Expr :=
  .stage "Select" source (.function [x] (tree.expr x))

/-- The writer at the beginning of the body of the lambda. -/
def opened (x : Parameter) (writer : Writer) : Writer :=
  writer.takeSteps
    [.write LambdaStage.select.opening, .trim, .indent, .breakLine, .declare x]

theorem takeSteps_select (x : Parameter) (writer : Writer) (tree : Arithmetic) :
    writer.takeSteps (LambdaStage.select.steps x (tree.steps x.name)) =
      ((opened x writer).append (tree.text x.name)).apply .dedent := by
  simp only [LambdaStage.steps, Writer.takeSteps_cons, Writer.takeSteps_append, takeSteps_steps]
  rfl

theorem trimEnd_opening (output : Output) :
    (output.append LambdaStage.select.opening).trimEnd.text =
      output.text ++ "\n" ++ ("RETURN" ++ if output.pretty then "" else " ") := by
  change (if output.pretty then _ else _ : Output).text = _
  cases output.pretty with
  | false =>
      apply String.toList_inj.mp
      simp [Output.append, LambdaStage.opening]
  | true =>
      apply String.toList_inj.mp
      simp [Output.append, Text.dropRightWhile, LambdaStage.opening]

/-- The word at the beginning of the clause stays there. -/
theorem opened_mentions (x : Parameter) (writer : Writer) :
    Text.Mentions (opened x writer).output.text "return" := by
  have clause : Text.Mentions (writer.output.append LambdaStage.select.opening).trimEnd.text
      "return" := by
    exact ⟨_, "RETURN", _, trimEnd_opening writer.output, by decide⟩
  change Text.Mentions (Output.breakLine
    (Output.indent (writer.output.append LambdaStage.select.opening).trimEnd)).text "return"
  unfold Output.breakLine
  split
  · exact clause.append _
  · exact clause

end Arithmetic

/-- The query of a calculation tells its value, if names have no spaces and no sum or difference is
multiplied or subtracted: two such calculations with the same query have the same value, whatever
the members are, those called key being one. -/
theorem query_tells_flat_calculation {settings : Settings} {source : Expr} {x : Parameter}
    {tree other : Arithmetic}
    (spaceless : ∀ name ∈ tree.memberNames ++ other.memberNames, ' ' ∉ name.toList)
    (flat : tree.isFlat) (otherFlat : other.isFlat) {query otherQuery : Query}
    (compiled : Query.compile .aql settings (tree.projection x source) = .ok query)
    (otherCompiled : Query.compile .aql settings (other.projection x source) = .ok otherQuery)
    (same : query.text = otherQuery.text) (members : String → Int)
    (upperKey : members "Key" = members "_key") (lowerKey : members "key" = members "_key") :
    tree.value members = other.value members := by
  obtain ⟨writer, trail, ran, rfl⟩ := Query.finish_of_takes (Expr.stage_script .select source _)
    (Expr.clause_takes .select x (tree.isInlined_expr x) (tree.expr_takes x)) compiled
  obtain ⟨otherWriter, otherTrail, otherRan, rfl⟩ :=
    Query.finish_of_takes (Expr.stage_script .select source _)
      (Expr.clause_takes .select x (other.isInlined_expr x) (other.expr_takes x)) otherCompiled
  obtain rfl : writer = otherWriter := Outcome.finished.inj (ran.symm.trans otherRan)
  rw [Arithmetic.takeSteps_select, Arithmetic.takeSteps_select] at same
  let behind (tree : Arithmetic) (trail : Trail) : Writer :=
    (((Arithmetic.opened x writer).append (tree.text x.name)).apply .dedent).atTrail trail
  have skips_eq : (behind tree trail).skips = (behind other otherTrail).skips := rfl
  have header_eq : (behind tree trail).header = (behind other otherTrail).header := rfl
  have returns : ∀ tree trail, (behind tree trail).output.contains "return" := by
    intro tree trail
    rw [Text.contains_iff_mentions]
    exact (Arithmetic.opened_mentions x writer).append (tree.text x.name)
  have body_eq : (Arithmetic.opened x writer).output.text ++ tree.text x.name =
      (Arithmetic.opened x writer).output.text ++ other.text x.name :=
    Writer.output_text_of_finish skips_eq header_eq (returns _ _) (returns _ _) same
  have keys : ∀ name, members (Render.attributeName name) = members name := by
    intro name
    unfold Render.attributeName
    split
    · rename_i key
      rcases (Bool.or_eq_true _ _).mp key with upper | lower
      · rw [beq_iff_eq.mp upper, upperKey]
      · rw [beq_iff_eq.mp lower, lowerKey]
    · rfl
  exact Arithmetic.value_eq_of_text_eq
    (fun name named => spaceless name (List.mem_append_left _ named))
    (fun name named => spaceless name (List.mem_append_right _ named))
    flat otherFlat (String.append_right_inj _ |>.mp body_eq) keys

namespace Arithmetic

/-- A member of a name. -/
def named (name : String) : Arithmetic :=
  .field ⟨name, none, none⟩ ⟨.number "Int32", rfl⟩

/-- An operator between two operands. -/
def between (operator : ArithmeticOperator) (left right : Arithmetic) : Arithmetic :=
  .binary operator left right ⟨.number "Int32", rfl⟩

/-- A sum with a difference on the right, which needs no parentheses. -/
def sumOfDifference : Arithmetic :=
  between .add (named "Key") (between .subtract (named "B")
    (between .multiply (named "C") (.constant (-2) ⟨.number "Int32", rfl⟩)))

/-- A difference with a sum on the left, which needs none either. -/
def differenceOfSum : Arithmetic :=
  between .subtract (between .add (named "_key") (named "B"))
    (between .multiply (named "C") (.constant (-2) ⟨.number "Int32", rfl⟩))

end Arithmetic

/-- The five rows behind the first three. -/
def Expr.fourthToEighth : Expr :=
  .countStage "Take" (.countStage "Skip" (.source (.named "T")) 3) 5

/-- Two groupings of one text. -/
theorem query_tells_flat_calculation_sumOfDifference :
    (Arithmetic.sumOfDifference.isFlat ∧ Arithmetic.differenceOfSum.isFlat) ∧
      ∃ query otherQuery,
        Query.compile .aql {}
          (Arithmetic.sumOfDifference.projection ⟨"x", .named "T"⟩ .fourthToEighth) = .ok query ∧
        Query.compile .aql {}
          (Arithmetic.differenceOfSum.projection ⟨"x", .named "T"⟩ .fourthToEighth) =
            .ok otherQuery ∧
        query.text = "FOR x IN T\nLIMIT 3, 5\nRETURN x._key + x.B - x.C * -2" ∧
        otherQuery.text = query.text ∧
        Arithmetic.sumOfDifference.value (fun name => if name = "C" then 3 else 7) =
          Arithmetic.differenceOfSum.value (fun name => if name = "C" then 3 else 7) := by
  have spaceless : ∀ name ∈ Arithmetic.sumOfDifference.memberNames ++
      Arithmetic.differenceOfSum.memberNames, ' ' ∉ name.toList := by decide
  obtain ⟨query, compiled, text_eq⟩ : ∃ query, Query.compile .aql {}
      (Arithmetic.sumOfDifference.projection ⟨"x", .named "T"⟩ .fourthToEighth) = .ok query ∧
      query.text = "FOR x IN T\nLIMIT 3, 5\nRETURN x._key + x.B - x.C * -2" :=
    ⟨_, rfl, rfl⟩
  obtain ⟨otherQuery, otherCompiled, otherText_eq⟩ : ∃ query, Query.compile .aql {}
      (Arithmetic.differenceOfSum.projection ⟨"x", .named "T"⟩ .fourthToEighth) = .ok query ∧
      query.text = "FOR x IN T\nLIMIT 3, 5\nRETURN x._key + x.B - x.C * -2" :=
    ⟨_, rfl, rfl⟩
  have same : query.text = otherQuery.text := text_eq.trans otherText_eq.symm
  exact ⟨⟨rfl, rfl⟩, query, otherQuery, compiled, otherCompiled, text_eq, same.symm,
    query_tells_flat_calculation spaceless rfl rfl compiled otherCompiled same _ rfl rfl⟩

/-- Two calculations with the same query have different values. -/
def Arithmetic.Confused (tree other : Arithmetic) (members : String → Int) : Prop :=
  ∃ query otherQuery,
    Query.compile .aql {} (tree.projection ⟨"x", .named "T"⟩ (.source (.named "T"))) = .ok query ∧
    Query.compile .aql {} (other.projection ⟨"x", .named "T"⟩ (.source (.named "T"))) =
      .ok otherQuery ∧
    query.text = otherQuery.text ∧ query.binds = [] ∧ otherQuery.binds = [] ∧
    tree.value members ≠ other.value members

/-- Parentheses are not written; spaces in names are not told from those around operators, and the
key is written in one way. -/
theorem query_loses_grouping :
    Arithmetic.Confused
      (.between .subtract (.named "A") (.between .subtract (.named "B") (.named "C")))
      (.between .subtract (.between .subtract (.named "A") (.named "B")) (.named "C"))
      (fun _ => 2) ∧
    Arithmetic.Confused
      (.between .multiply (.named "A") (.between .add (.named "B") (.named "C")))
      (.between .add (.between .multiply (.named "A") (.named "B")) (.named "C"))
      (fun _ => 2) ∧
    Arithmetic.Confused (.named "A - x.B") (.between .subtract (.named "A") (.named "B"))
      (fun _ => 2) ∧
    Arithmetic.Confused (.named "Key") (.named "_key") (fun name => name.length) := by
  refine ⟨?_, ?_, ?_, ?_⟩ <;>
    exact ⟨_, _, rfl, rfl, by decide, rfl, rfl, by decide⟩

end AqlPipeline
