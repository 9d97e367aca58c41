import AqlPipeline.Expr.Build
import AqlPipeline.Proofs.Expr.Alike
import AqlPipeline.Query

/-!
# Strings on the right of an operator

A string on the right of an operator that does not depend on the query is bound, or is not
supported, so nothing inside of it is written.  The exception is a member without a value of an
owner that does not hold captured variables: it is written as its owner and its name, and the owner
may be a constant.
-/

namespace AqlPipeline

/-- Whether the right operand of an operator is a string that should stay out of the text: it is
more than a constant, and does not depend on the query. -/
def BinaryOperator.shields (operator : BinaryOperator) (right : Expr) : Bool :=
  operator.symbol?.isSome && right.type.isString && right.constant?.isNone &&
    !right.mentionsParameter

/-- Whether an expression is a member without a value that is written behind its owner. -/
def Expr.isWrittenOut : Expr → Bool
  | .memberAccess (some owner) member _ =>
    (memberValue? (some owner) member).isNone && !Render.holdsCaptures owner
  | _ => false

/-- A string with nothing inside, to stand for one that is not written: it has the same value, or
no value for the same reason. -/
def Expr.hollow (expr : Expr) : Expr :=
  match expr.staticValue? with
  | some value => .captured "" value expr.type
  | none =>
    match expr with
    | .memberAccess _ member type => .memberAccess none ⟨member.name, none, none⟩ type
    | _ => .defaultValue expr.type

/-- A right operand, with nothing inside if nothing of it is written. -/
def Expr.hollowOperand (operator : BinaryOperator) (right : Expr) : Expr :=
  if operator.shields right && !right.isWrittenOut then right.hollow else right

/-! ## Hollow operands -/

theorem Expr.hollow_cases (expr : Expr) :
    (∃ value, expr.staticValue? = some value ∧ expr.hollow = .captured "" value expr.type) ∨
    (∃ owner member type, expr = .memberAccess owner member type ∧
      memberValue? owner member = none ∧
      expr.hollow = .memberAccess none ⟨member.name, none, none⟩ type) ∨
    expr.staticValue? = none ∧ expr.isMember = false ∧ expr.hollow = .defaultValue expr.type := by
  cases value : expr.staticValue? with
  | some value' => exact .inl ⟨value', rfl, by simp [hollow, value]⟩
  | none =>
      right
      cases expr with
      | memberAccess owner member type =>
          rw [staticValue?_memberAccess] at value
          exact .inl ⟨owner, member, type, rfl, value, by
            simp [hollow, staticValue?_memberAccess, value]⟩
      | _ => exact .inr ⟨rfl, rfl, by simp [hollow, value]⟩

theorem Expr.staticValue?_hollow (expr : Expr) : expr.hollow.staticValue? = expr.staticValue? := by
  rcases expr.hollow_cases with ⟨value, value_eq, hollow_eq⟩ |
    ⟨owner, member, type, rfl, value_eq, hollow_eq⟩ | ⟨value_eq, -, hollow_eq⟩
  · rw [hollow_eq, value_eq]
    rfl
  · rw [hollow_eq, staticValue?_memberAccess, staticValue?_memberAccess, value_eq]
    rfl
  · rw [hollow_eq, value_eq]
    rfl

theorem Expr.type_hollow (expr : Expr) : expr.hollow.type = expr.type := by
  rcases expr.hollow_cases with ⟨_, -, hollow_eq⟩ | ⟨_, _, _, rfl, -, hollow_eq⟩ | ⟨-, -, hollow_eq⟩
  all_goals
    rw [hollow_eq]
    rfl

theorem Expr.mentionsParameter_hollow (expr : Expr) : expr.hollow.mentionsParameter = false := by
  rcases expr.hollow_cases with ⟨_, -, hollow_eq⟩ | ⟨_, _, _, -, -, hollow_eq⟩ | ⟨-, -, hollow_eq⟩
  all_goals
    rw [hollow_eq]
    rfl

theorem Expr.constant?_of_mem_hollow {expr node : Expr} (member : node ∈ expr.hollow.nodes) :
    node.constant? = none := by
  rcases expr.hollow_cases with ⟨_, -, hollow_eq⟩ | ⟨_, _, _, -, -, hollow_eq⟩ | ⟨-, -, hollow_eq⟩
  all_goals
    rw [hollow_eq] at member
    rw [List.mem_singleton.mp member]
    rfl

/-! ## How a string operand is written -/

theorem BinaryOperator.isString_of_shields {operator : BinaryOperator} {right : Expr}
    (shielded : operator.shields right) :
    right.type.isString ∧ right.mentionsParameter = false := by
  simp only [BinaryOperator.shields, Bool.and_eq_true, Bool.not_eq_true'] at shielded
  exact ⟨shielded.1.1.2, shielded.2⟩

/-- A member without a value that is not written behind its owner cannot be resolved. -/
theorem Expr.script_unresolved {dialect : Dialect}
    (captured : dialect.resolve = Dialect.resolveCaptured) {owner : Option Expr} {member : Member}
    {type : TypeRef} (unknown : memberValue? owner member = none)
    (kept : (Expr.memberAccess owner member type).isWrittenOut = false) (placement : Placement) :
    (Expr.memberAccess owner member type).script dialect placement =
      .fail (.unresolvedReference member.name) := by
  cases owner with
  | none =>
      simp [Expr.script, optionalPart, Render.memberAccess, Render.reference, captured,
        Dialect.resolveCaptured, unknown]
  | some owner =>
      have holds : Render.holdsCaptures owner = true := by
        simpa [isWrittenOut, unknown] using kept
      simp [Expr.script, optionalPart, Render.memberAccess, Render.reference, captured,
        Dialect.resolveCaptured, unknown, holds]

/-- A member without a value that is written behind its owner. -/
theorem Expr.script_of_isWrittenOut (dialect : Dialect) {expr : Expr} (written : expr.isWrittenOut)
    (placement : Placement) :
    ∃ owner member type, expr = .memberAccess (some owner) member type ∧
      expr.staticValue? = none ∧
      expr.script dialect placement =
        .enter "Expression" (owner.script dialect {}) ++
          .write ("." ++ Render.attributeName member.name) := by
  cases expr with
  | memberAccess owner member type =>
      cases owner with
      | none => cases written
      | some owner =>
          simp only [isWrittenOut, Bool.and_eq_true, Bool.not_eq_true', Option.isNone_iff_eq_none]
            at written
          refine ⟨owner, member, type, rfl, ?_, ?_⟩
          · rw [staticValue?_memberAccess, written.1]
          · simp [Expr.script, optionalPart, Render.memberAccess, written.2, Part.visit,
              Part.script]
  | _ => cases written

namespace Render

variable {dialect : Dialect} {operator : BinaryOperator} {right : Expr}

/-- A string operand that is not written out is bound, is not supported, or cannot be resolved. -/
theorem rightOperand_of_shields (captured : dialect.resolve = Dialect.resolveCaptured)
    (shielded : operator.shields right) (kept : right.isWrittenOut = false) (segment : String) :
    (∃ value, right.staticValue? = some value ∧
      rightOperand operator segment ⟨right, right.script dialect⟩ = .bindLiteral value) ∨
    right.staticValue? = none ∧
      (rightOperand operator segment ⟨right, right.script dialect⟩ = .fail (.notSupported
          "a string operand that cannot be evaluated before the query runs") ∨
        ∃ name, rightOperand operator segment ⟨right, right.script dialect⟩ =
          .enter segment (.fail (.unresolvedReference name))) := by
  obtain ⟨string, unbound⟩ := BinaryOperator.isString_of_shields shielded
  rw [rightOperand_eq, if_pos string]
  cases value : right.staticValue? with
  | some value' => exact .inl ⟨value', rfl, rfl⟩
  | none =>
      refine .inr ⟨rfl, ?_⟩
      cases right with
      | memberAccess owner member type =>
          rw [Expr.staticValue?_memberAccess] at value
          right
          refine ⟨member.name, ?_⟩
          simp [Expr.isMember, Part.visit, Part.script, Expr.script_unresolved captured value kept]
      | _ =>
          left
          simp [Expr.isMember, unbound]

theorem rightOperand_hollow (captured : dialect.resolve = Dialect.resolveCaptured)
    (shielded : operator.shields right) (kept : right.isWrittenOut = false) (segment : String) :
    rightOperand operator segment ⟨right.hollow, right.hollow.script dialect⟩ =
      rightOperand operator segment ⟨right, right.script dialect⟩ := by
  obtain ⟨string, unbound⟩ := BinaryOperator.isString_of_shields shielded
  rw [rightOperand_eq, rightOperand_eq, Expr.type_hollow, if_pos string, if_pos string,
    Expr.staticValue?_hollow, Expr.mentionsParameter_hollow, unbound]
  rcases right.hollow_cases with ⟨value, value_eq, -⟩ |
    ⟨owner, member, type, rfl, value_eq, hollow_eq⟩ | ⟨value_eq, unnamed, hollow_eq⟩
  · rw [value_eq]
  · -- neither the member nor the one that stands for it can be resolved
    have unresolved := Expr.script_unresolved captured value_eq kept {}
    have hollow_unresolved :
        (Expr.memberAccess none ⟨member.name, none, none⟩ type).script dialect {} =
          .fail (.unresolvedReference member.name) := Expr.script_unresolved captured rfl rfl {}
    rw [hollow_eq, Expr.staticValue?_memberAccess, value_eq]
    simp only [Expr.isMember, Part.visit, Part.script, unresolved, hollow_unresolved]
  · rw [hollow_eq, value_eq, unnamed]
    rfl

end Render

/-! ## Compiled queries -/

/-- Leaving out what is inside of string operands that are not written stays hidden, down to the
values that are bound. -/
def HiddenChange.hollowing {dialect : Dialect}
    (captured : dialect.resolve = Dialect.resolveCaptured) : HiddenChange .sameValue dialect where
  captured := captured
  apply := Expr.hollowOperand
  symbolless := by
    intro operator expr symbolless
    simp [Expr.hollowOperand, BinaryOperator.shields, symbolless]
  mentions := by
    intro operator expr
    unfold Expr.hollowOperand
    split
    · rename_i hidden
      rw [Bool.and_eq_true] at hidden
      rw [Expr.mentionsParameter_hollow, (BinaryOperator.isString_of_shields hidden.1).2]
    · rfl
  known := by
    intro operator expr
    have value_eq : (Expr.hollowOperand operator expr).staticValue? = expr.staticValue? := by
      unfold Expr.hollowOperand
      split
      · exact expr.staticValue?_hollow
      · rfl
    rw [value_eq]
    exact Likeness.values_of_known (Likeness.known_refl _ _)
  written := by
    intro operator expr
    unfold Expr.hollowOperand
    split
    · rename_i hidden
      rw [Bool.and_eq_true, Bool.not_eq_true'] at hidden
      right
      intro segment
      rw [Render.rightOperand_hollow captured hidden.1 hidden.2]
      exact .refl_sameValue _
    · exact .inl rfl

theorem HiddenChange.shields_onRight {like : Likeness} {dialect : Dialect}
    (change : HiddenChange like dialect) (operator : BinaryOperator) (right : Expr) :
    operator.shields (right.onRight change.apply) = operator.shields right := by
  simp only [BinaryOperator.shields, Expr.type_onRight, Expr.constant?_onRight,
    right.mentionsParameter_onRight change]

theorem HiddenChange.isWrittenOut_onRight {like : Likeness} {dialect : Dialect}
    (change : HiddenChange like dialect) (expr : Expr) :
    (expr.onRight change.apply).isWrittenOut = expr.isWrittenOut := by
  cases expr with
  | memberAccess owner member type =>
      cases owner with
      | none => rfl
      | some owner =>
          simp only [Expr.onRight, Expr.optionOnRight, Expr.isWrittenOut,
            Render.holdsCaptures_onRight,
            ← Expr.memberValue?_eq_of_known member (owner.staticValue?_onRight change)]
  | _ => rfl

/-- A string on the right of an operator that is more than a constant and does not depend on the
query is written out only if it is a member without a value, of an owner that does not hold captured
variables.  Any other one is bound as a whole, is not supported or cannot be resolved, so the query
is the same if there is nothing inside of it. -/
theorem string_operands_kept_out {dialect : Dialect}
    (captured : dialect.resolve = Dialect.resolveCaptured) (settings : Settings) (expr : Expr) :
    Query.compile dialect settings (expr.onRight Expr.hollowOperand) =
      Query.compile dialect settings expr ∧
    ∀ operator right, operator.shields right →
      (right.isWrittenOut = false →
        (∀ node ∈ (Expr.hollowOperand operator (right.onRight Expr.hollowOperand)).nodes,
          node.constant? = none) ∧
        ∀ segment,
          (∃ value, right.staticValue? = some value ∧
            Render.rightOperand operator segment ⟨right, right.script dialect⟩ =
              .bindLiteral value) ∨
          right.staticValue? = none ∧
            (Render.rightOperand operator segment ⟨right, right.script dialect⟩ =
                .fail (.notSupported
                  "a string operand that cannot be evaluated before the query runs") ∨
              ∃ name, Render.rightOperand operator segment ⟨right, right.script dialect⟩ =
                .enter segment (.fail (.unresolvedReference name)))) ∧
      (right.isWrittenOut →
        ∃ owner member type, right = .memberAccess (some owner) member type ∧ ∀ segment,
          Render.rightOperand operator segment ⟨right, right.script dialect⟩ =
            .enter segment (.enter "Expression" (owner.script dialect {}) ++
              .write ("." ++ Render.attributeName member.name))) := by
  let change := HiddenChange.hollowing captured
  constructor
  · -- no value may differ, so scripts that are alike are the same
    have scripts_eq : expr.script dialect {} =
        (expr.onRight Expr.hollowOperand).script dialect {} :=
      (expr.script_alike change (fun _ _ _ _ => trivial) {}).eq
    rw [Query.compile, ← scripts_eq, Query.compile]
  · intro operator right shielded
    refine ⟨fun kept => ⟨?_, Render.rightOperand_of_shields captured shielded kept⟩,
      fun written => ?_⟩
    · have hollow_eq : Expr.hollowOperand operator (right.onRight Expr.hollowOperand) =
          (right.onRight Expr.hollowOperand).hollow := by
        have shielded' : operator.shields (right.onRight Expr.hollowOperand) = _ :=
          change.shields_onRight operator right
        have kept' : (right.onRight Expr.hollowOperand).isWrittenOut = _ :=
          change.isWrittenOut_onRight right
        refine if_pos ?_
        rw [shielded', kept', shielded, kept]
        rfl
      intro node member
      rw [hollow_eq] at member
      exact Expr.constant?_of_mem_hollow member
    · obtain ⟨string, -⟩ := BinaryOperator.isString_of_shields shielded
      obtain ⟨owner, member, type, rfl, unknown, script_eq⟩ :=
        Expr.script_of_isWrittenOut dialect written {}
      refine ⟨owner, member, type, rfl, fun segment => ?_⟩
      rw [Render.rightOperand_eq, if_pos string, unknown]
      simp only [Expr.isMember, Bool.true_or, if_true, Part.visit, Part.script, script_eq]

/-- A string that cannot be evaluated with a constant inside, and a member of a constant. -/
theorem string_operands_kept_out_typeAs :
    (Query.compile .aql {} (.equals (.stringConstant "Ada") (.defaultValue .string)) =
      Query.compile .aql {} (.equals (.stringConstant "Ada")
        (.applied .typeAs (.stringConstant "secret") .string))) ∧
    BinaryOperator.equal.shields (.applied .typeAs (.stringConstant "secret") .string) ∧
    (∀ node ∈ (Expr.hollowOperand .equal
        (.applied .typeAs (.stringConstant "secret") .string)).nodes, node.constant? = none) ∧
    ∃ owner member type,
      Expr.memberOf (.stringConstant "secret") "Length" .string =
        .memberAccess (some owner) member type ∧
      ∀ segment, Render.rightOperand .equal segment
        ⟨.memberOf (.stringConstant "secret") "Length" .string,
          (Expr.memberOf (.stringConstant "secret") "Length" .string).script .aql⟩ =
        .enter segment (.enter "Expression" (owner.script .aql {}) ++
          .write ("." ++ Render.attributeName member.name)) := by
  have captured : Dialect.aql.resolve = Dialect.resolveCaptured := rfl
  obtain ⟨compile_eq, operands⟩ := string_operands_kept_out captured {}
    (.equals (.stringConstant "Ada") (.applied .typeAs (.stringConstant "secret") .string))
  have keptOut := (operands .equal (.applied .typeAs (.stringConstant "secret") .string) rfl).1 rfl
  exact ⟨compile_eq, rfl, keptOut.1,
    (operands .equal (.memberOf (.stringConstant "secret") "Length" .string) rfl).2 rfl⟩

/-- The constant that a member is read from is written. -/
theorem string_operand_written_out :
    BinaryOperator.equal.shields
      (.memberOf (.constant (.string "secret") (.named "Account")) "Owner" .string) ∧
    ∃ query, Query.compile .aql { collection := some "users" }
        (.equals (.memberOf (.parameter ⟨"u", .named "User"⟩) "Name" .string)
          (.memberOf (.constant (.string "secret") (.named "Account")) "Owner" .string)) =
        .ok query ∧
      query.text = "FOR x IN usersu.Name == \"secret\".Owner\nRETURN x" ∧
      query.binds = [] ∧ query.gaps = [] :=
  ⟨rfl, _, rfl, rfl, rfl, rfl⟩

end AqlPipeline
