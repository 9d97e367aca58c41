import AqlPipeline.Expr.Build
import AqlPipeline.Proofs.Expr.Alike
import AqlPipeline.Proofs.Query.Compile
import AqlPipeline.Proofs.Writer.Alike

/-!
# Constants that are bound do not influence the query

Strings on the right of an operator, and constants that something is compared with, are bound.  Two
expressions that differ only in the values of such constants become the same query, but for the
values of bind variables.
-/

namespace AqlPipeline

/-! ## Finishing a query -/

namespace Writer.Alike

variable {suffix : Nat → String} {writer other : Writer}

theorem patchSkip (alike : Alike suffix writer other) (count : Int) :
    Alike suffix (writer.patchSkip count) (other.patchSkip count) := by
  refine alike.map (·.patchSkip count) (fun writer => ?_) fun writer table => ?_
  · simp only [Writer.patchSkip, insertBehind?]
    cases writer.output.insertBehind? limitToken (toString count ++ ", ") <;> rfl
  · simp only [Writer.patchSkip, insertBehind?]
    cases writer.output.insertBehind? limitToken (toString count ++ ", ") <;> rfl

theorem patchSkips (alike : Alike suffix writer other) :
    Alike suffix writer.patchSkips other.patchSkips := by
  have skips_eq : other.skips = writer.skips := by rw [alike.rest_eq]
  have patched : ∀ (counts : List Int) {writer other : Writer}, Alike suffix writer other →
      Alike suffix (counts.foldl Writer.patchSkip writer)
        (counts.foldl Writer.patchSkip other) := by
    intro counts
    induction counts with
    | nil => exact fun alike => alike
    | cons count counts ih => exact fun alike => ih (alike.patchSkip count)
  rw [Writer.patchSkips, Writer.patchSkips, skips_eq]
  exact patched writer.skips alike

end Writer.Alike

/-- Two queries that differ only in the values of their bind variables. -/
structure Query.Alike (query other : Query) : Prop where
  /-- The text is the same. -/
  text : other.text = query.text
  /-- So are the spans of paths. -/
  spans : other.spans = query.spans
  /-- So are the parts replaced by a marker. -/
  gaps : other.gaps = query.gaps
  /-- So is the type of the first new object. -/
  projectionType : other.projectionType = query.projectionType
  /-- The bind variables have the same names in the same order. -/
  binds : other.binds.map Prod.fst = query.binds.map Prod.fst

theorem Writer.Alike.finish {suffix : Nat → String} {writer other : Writer}
    (alike : Alike suffix writer other) : Query.Alike writer.finish other.finish := by
  obtain ⟨rest_eq, tables⟩ := alike.patchSkips
  have names_eq := names_eq_of_entries tables.entries
  simp only [Writer.finish]
  rw [rest_eq]
  exact ⟨rfl, rfl, rfl, rfl, names_eq⟩

/-! ## Protected constants -/

/-- Whether an operator binds a constant of a type on its right. -/
def BinaryOperator.protects (operator : BinaryOperator) (type : TypeRef) : Bool :=
  (operator.symbol?.isSome && type.isString) || operator.isComparison

/-- A right operand, without its value if it is a constant that the operator binds. -/
def Expr.maskedOperand (operator : BinaryOperator) : Expr → Expr
  | .constant value type => .constant (if operator.protects type then .null else value) type
  | expr => expr

/-- An expression without the values of constants that are bound. -/
def Expr.masked (expr : Expr) : Expr :=
  expr.onRight Expr.maskedOperand

theorem Render.rightOperand_of_protects {operator : BinaryOperator} {type : TypeRef}
    (bound : operator.protects type) (segment : String) (value : Json)
    (scriptAt : Placement → Script) :
    Render.rightOperand operator segment ⟨.constant value type, scriptAt⟩ =
      .bindLiteral value := by
  rw [Render.rightOperand_eq]
  by_cases string : type.isString
  · simp [Expr.type, string, Expr.staticValue?]
  · have comparison : operator.isComparison := by
      simpa [BinaryOperator.protects, string] using bound
    simp [Expr.type, string, Expr.constant?, comparison]

theorem Expr.maskedOperand_eq_self {operator : BinaryOperator} {expr : Expr}
    (unbound : ∀ value type, expr = .constant value type → operator.protects type = false) :
    Expr.maskedOperand operator expr = expr := by
  cases expr with
  | constant value type => simp [Expr.maskedOperand, unbound value type rfl]
  | _ => rfl

/-- Leaving out the values of constants that are bound stays hidden. -/
def HiddenChange.masking {dialect : Dialect}
    (captured : dialect.resolve = Dialect.resolveCaptured) (suffix : Nat → String) :
    HiddenChange (.hiding suffix) dialect where
  captured := captured
  apply := Expr.maskedOperand
  symbolless := by
    intro operator expr symbolless
    refine Expr.maskedOperand_eq_self fun value type _ => ?_
    cases operator with
    | power | powerAssign | arrayIndex => rfl
    | _ => cases symbolless
  mentions := by
    intro operator expr
    cases expr <;> rfl
  known := by
    intro operator expr
    cases expr with
    | constant value type => exact .some trivial
    | _ => exact Likeness.values_of_known (Likeness.known_refl _ _)
  written := by
    intro operator expr
    cases expr with
    | constant value type =>
        by_cases bound : operator.protects type
        · right
          intro segment
          rw [Render.rightOperand_of_protects bound, Expr.maskedOperand,
            Render.rightOperand_of_protects bound]
          exact .bindLiteral trivial
        · left
          simp [Expr.maskedOperand, bound]
    | _ => exact .inl rfl

/-- Whether no member and no captured variable of an expression has a name that may be given to
values without one. -/
def Expr.AvoidsLiteralNames (suffix : Nat → String) (expr : Expr) : Prop :=
  ∀ name ∈ expr.memberNames, ¬ Writer.IsLiteralName suffix name

variable {suffix : Nat → String}

theorem Expr.AvoidsLiteralNames.script_alike {dialect : Dialect} {expr : Expr}
    (avoids : expr.AvoidsLiteralNames suffix)
    (captured : dialect.resolve = Dialect.resolveCaptured) :
    Script.Alike (.hiding suffix) (expr.script dialect {}) (expr.masked.script dialect {}) := by
  have binds : (Likeness.hiding suffix).Binds expr.nodes := fun node member name named =>
    avoids name (List.mem_filterMap.mpr ⟨node, member, named⟩)
  exact expr.script_alike (.masking captured suffix) binds {}

theorem Writer.alike_startWith (suffix : Nat → String) (settings : Settings) :
    Writer.Alike suffix (.startWith suffix settings) (.startWith suffix settings) :=
  ⟨rfl, rfl, rfl, rfl, .nil⟩

/-- Two expressions that differ only in the values of constants that are bound end in the same
failure, or become queries with the same text, spans, gaps, type of result and names of bind
variables, as long as nothing else may be bound to the names of such constants. -/
theorem protected_constants_hidden {dialect : Dialect}
    (captured : dialect.resolve = Dialect.resolveCaptured) (settings : Settings)
    {first second : Expr} (masked_eq : first.masked = second.masked)
    (firstNames : first.AvoidsLiteralNames suffix)
    (secondNames : second.AvoidsLiteralNames suffix) :
    (∃ failure, Query.compileWith suffix dialect settings first = .error failure ∧
      Query.compileWith suffix dialect settings second = .error failure) ∨
    ∃ query other, Query.compileWith suffix dialect settings first = .ok query ∧
      Query.compileWith suffix dialect settings second = .ok other ∧
      other.text = query.text ∧ other.spans = query.spans ∧ other.gaps = query.gaps ∧
      other.projectionType = query.projectionType ∧
      other.binds.map Prod.fst = query.binds.map Prod.fst := by
  -- both are written like the expression that is left when the values are taken out
  have scripts : Script.Alike (.hiding suffix) (first.script dialect {})
      (second.script dialect {}) := by
    have firsts := firstNames.script_alike captured
    rw [masked_eq] at firsts
    exact firsts.trans (secondNames.script_alike captured).symm
  have outcomes := (scripts.enter "").run (Writer.alike_startWith suffix settings)
  simp only [Query.compileWith]
  generalize Writer.run (.enter "" (first.script dialect {})) _ = outcome,
    Writer.run (.enter "" (second.script dialect {})) _ = outcome' at outcomes
  cases outcomes with
  | stopped _ error => exact .inl ⟨.refused error, rfl, rfl⟩
  | crashed _ => exact .inl ⟨.crashed, rfl, rfl⟩
  | finished writers =>
      obtain ⟨text_eq, spans_eq, gaps_eq, type_eq, names_eq⟩ := writers.finish
      exact .inr ⟨_, _, rfl, rfl, text_eq, spans_eq, gaps_eq, type_eq, names_eq⟩

/-- A filter on a name that is joined from a captured variable and a text, and on an age. -/
def Expr.nameFilter (text : String) (age : Int) : Expr :=
  let user : Parameter := ⟨"user", .named "User"⟩
  .stage "Where" (.source user.type) <| .function [user] <| .binary .andAlso
    (.equals (.memberOf (.parameter user) "Name" .string)
      (.binary .add (.captured "first" (.string "Ada ") .string) (.stringConstant text) .string))
    (.binary .greaterThan (.memberOf (.parameter user) "Age" (.number "Int32")) (.intConstant age)
      .boolean) .boolean

theorem Writer.not_isLiteralName {name : String} (other : name.toList.head? ≠ some 'p') :
    ¬ IsLiteralName suffix name := by
  rintro (rfl | ⟨number, rfl⟩)
  · exact other rfl
  · exact other (by simp [literalName])

theorem Expr.nameFilter_avoidsLiteralNames (text : String) (age : Int) :
    (Expr.nameFilter text age).AvoidsLiteralNames suffix := by
  intro name member
  have names_eq : (Expr.nameFilter text age).memberNames = ["Name", "first", "Age"] := rfl
  rw [names_eq] at member
  refine Writer.not_isLiteralName ?_
  rcases List.mem_cons.mp member with rfl | member
  · decide
  · rcases List.mem_cons.mp member with rfl | member
    · decide
    · rw [List.mem_singleton.mp member]
      decide

/-- The text and the age are bound, whatever they are. -/
theorem protected_constants_hidden_nameFilter :
    (Expr.nameFilter "Lovelace" 36).masked = (Expr.nameFilter "" (-1)).masked ∧
      ∃ query other, Query.compile .aql {} (.nameFilter "Lovelace" 36) = .ok query ∧
        Query.compile .aql {} (.nameFilter "" (-1)) = .ok other ∧ other.text = query.text ∧
        other.binds.map Prod.fst = query.binds.map Prod.fst := by
  have masked_eq : (Expr.nameFilter "Lovelace" 36).masked = (Expr.nameFilter "" (-1)).masked := rfl
  have captured : Dialect.aql.resolve = Dialect.resolveCaptured := rfl
  refine ⟨masked_eq, ?_⟩
  rw [← Query.compileWith_paddedSuffix]
  rcases protected_constants_hidden captured {} masked_eq (Expr.nameFilter_avoidsLiteralNames _ _)
      (Expr.nameFilter_avoidsLiteralNames _ _) with
    ⟨failure, failed, -⟩ | ⟨query, other, compiled, compiled', text_eq, -, -, -, names_eq⟩
  · obtain ⟨query, compiled⟩ : ∃ query,
        Query.compileWith paddedSuffix .aql {} (.nameFilter "Lovelace" 36) = .ok query := ⟨_, rfl⟩
    rw [compiled] at failed
    cases failed
  · exact ⟨query, other, compiled, compiled', text_eq, names_eq⟩

end AqlPipeline
