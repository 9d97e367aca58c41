import AqlPipeline.Proofs.Query.RowPipelines
import AqlPipeline.Proofs.Text.Search

/-!
# The text of simple pipelines

A pipeline of comparisons, orders, projections and limits over members of its rows becomes one
clause for each stage.  Its stages are stages over rows that all call their parameter alike, and do
not leave out any rows.
-/

namespace AqlPipeline

/-! ## Stages -/

/-- What a member is compared with. -/
inductive Comparand where
  | integer (value : Int)
  | text (value : String)

namespace Comparand

/-- The constant. -/
def expr : Comparand → Expr
  | .integer value => .intConstant value
  | .text value => .stringConstant value

/-- Its value. -/
def value : Comparand → Json
  | .integer value => .integer value
  | .text value => .string value

end Comparand

/-- A stage over a member of the rows. -/
inductive SimpleStage where
  /-- Keeps the rows in which a member compares to a constant. -/
  | compare (member : String) (type : TypeRef) (comparison : Comparison) (comparand : Comparand)
      (result : TypeRef)
  /-- Orders the rows, from the lowest member or from the highest. -/
  | order (descending : Bool) (member : String) (type : TypeRef)
  /-- Orders rows that are alike so far. -/
  | orderFurther (descending : Bool) (member : String) (type : TypeRef)
  /-- Yields a member. -/
  | project (member : String) (type : TypeRef)
  /-- Keeps a number of rows. -/
  | take (count : Int64)

namespace SimpleStage

/-- Whether the stage is given a lambda. -/
def hasLambda : SimpleStage → Bool
  | .take _ => false
  | _ => true

/-- The stage at the end of a pipeline. -/
def onto (x : Parameter) (source : Expr) : SimpleStage → Expr
  | .compare member type comparison comparand result =>
    .stage "Where" source <| .function [x] <|
      .binary comparison.operator (.memberOf (.parameter x) member type) comparand.expr result
  | .order descending member type =>
    .stage (if descending then "OrderByDescending" else "OrderBy") source <|
      .function [x] (.memberOf (.parameter x) member type)
  | .orderFurther descending member type =>
    .stage (if descending then "ThenByDescending" else "ThenBy") source <|
      .function [x] (.memberOf (.parameter x) member type)
  | .project member type =>
    .stage "Select" source (.function [x] (.memberOf (.parameter x) member type))
  | .take count => .countStage "Take" source count.toInt

/-- The pipeline of some stages over the rows of a type. -/
def pipeline (x : Parameter) (stages : List SimpleStage) : Expr :=
  stages.foldl (onto x) (.source x.type)

/-- A member of the iteration variable. -/
def rowMember (x member : String) : String :=
  x ++ "." ++ if member = "Key" ∨ member = "key" then "_key" else member

/-- The clause of a stage, when so many constants have been bound. -/
def clause (suffix : Nat → String) (x : String) (bound : Nat) : SimpleStage → String
  | .compare member _ comparison _ _ =>
    "\nFILTER " ++ rowMember x member ++ " " ++ comparison.symbol ++ " @" ++
      literalNameAt suffix bound
  | .order descending member _ =>
    "\nSORT " ++ rowMember x member ++ if descending then " DESC" else " ASC"
  | .orderFurther descending member _ =>
    ", " ++ rowMember x member ++ if descending then " DESC" else " ASC"
  | .project member _ => "\nRETURN " ++ rowMember x member
  | .take count => "\nLIMIT " ++ toString count.toInt

/-- The constant that a stage compares with. -/
def constants : SimpleStage → List Json
  | .compare _ _ _ comparand _ => [comparand.value]
  | _ => []

/-- The clauses of some stages, when so many constants have been bound before. -/
def clauses (suffix : Nat → String) (x : String) : (bound : Nat) → List SimpleStage → String
  | _, [] => ""
  | bound, stage :: stages =>
    stage.clause suffix x bound ++ clauses suffix x (bound + stage.constants.length) stages

/-! ## Simple stages among the stages over rows -/

/-- The stage as one over rows. -/
def row (x : Parameter) : SimpleStage → RowStage
  | .compare member type comparison comparand result =>
    .lambda .filter x
      (.compared comparison (.member member type) comparand.value comparand.expr.type result)
  | .order descending member type =>
    .lambda (if descending then .orderByDescending else .orderBy) x (.member member type)
  | .orderFurther descending member type =>
    .lambda (if descending then .thenByDescending else .thenBy) x (.member member type)
  | .project member type => .lambda .select x (.member member type)
  | .take count => .take count

variable (x : Parameter) (stages : List SimpleStage)

theorem onto_row (source : Expr) (stage : SimpleStage) :
    (stage.row x).onto source = stage.onto x source := by
  cases stage with
  | compare _ _ _ comparand _ => cases comparand <;> rfl
  | order descending _ _ | orderFurther descending _ _ => cases descending <;> rfl
  | project => rfl
  | take => rfl

theorem pipeline_row : RowStage.pipeline x.type (stages.map (row x)) = pipeline x stages := by
  rw [RowStage.pipeline, List.foldl_map, pipeline]
  congr 1
  funext source stage
  exact onto_row x source stage

theorem constants_row (stage : SimpleStage) : (stage.row x).constants = stage.constants := by
  cases stage <;> rfl

theorem flatMap_constants_row :
    (stages.map (row x)).flatMap RowStage.constants = stages.flatMap constants := by
  rw [List.flatMap_map]
  simp only [constants_row]

/-- No rows are left out. -/
theorem flatMap_skips_row : (stages.map (row x)).flatMap RowStage.skips = [] := by
  rw [List.flatMap_map, List.flatMap_eq_nil_iff]
  intro stage _
  cases stage <;> rfl

theorem rowMember_eq (name member : String) :
    rowMember name member = name ++ ("." ++ Render.attributeName member) := by
  simp [rowMember, Render.attributeName, String.append_assoc]

theorem clause_row (suffix : Nat → String) (bound : Nat) (stage : SimpleStage) :
    (stage.row x).clause suffix bound = stage.clause suffix x.name bound := by
  have reference : ∀ name : String, " @" ++ name = " " ++ ("@" ++ name) := fun name => by
    rw [← String.append_assoc]
    rfl
  cases stage with
  | compare member type comparison comparand result =>
      simp [row, RowStage.clause, RowTerm.text, RowTerm.constants, clause, rowMember_eq, reference,
        LambdaStage.opening, LambdaStage.closing?, String.append_assoc]
  | order descending member type | orderFurther descending member type =>
      cases descending <;>
        simp [row, RowStage.clause, RowTerm.text, clause, rowMember_eq, LambdaStage.opening,
          LambdaStage.closing?]
  | project member type =>
      simp [row, RowStage.clause, RowTerm.text, clause, rowMember_eq, LambdaStage.opening,
        LambdaStage.closing?]
  | take count => rfl

theorem clauses_row (suffix : Nat → String) (bound : Nat) :
    RowStage.clauses suffix bound (stages.map (row x)) = clauses suffix x.name bound stages := by
  induction stages generalizing bound with
  | nil => rfl
  | cons stage stages ih =>
      rw [List.map_cons, RowStage.clauses, clause_row, constants_row, ih, clauses]

/-- All lambdas have the same parameter. -/
theorem firstParameter?_row {stages : List SimpleStage}
    (declared : ∃ stage ∈ stages, stage.hasLambda) :
    RowStage.firstParameter? (stages.map (row x)) = some x := by
  induction stages with
  | nil => simp at declared
  | cons stage stages ih =>
      cases stage with
      | take count =>
          rw [List.map_cons, row, RowStage.firstParameter?]
          · exact ih (by simpa [hasLambda] using declared)
          · exact fun _ _ _ same => by cases same
      | _ => rfl

end SimpleStage

/-- A pipeline of simple stages, at least one of them with a lambda, becomes a loop over the rows
with the clauses of the stages in order, and a return unless they mention one.  The constants that
members are compared with are bound in order, each to a name of its own, and nothing is left out. -/
theorem pipeline_text {suffix : Nat → String} (distinct : Function.Injective suffix)
    (x : Parameter) (stages : List SimpleStage) (declared : ∃ stage ∈ stages, stage.hasLambda) :
    ∃ query footer,
      Query.compileWith suffix .aql {} (SimpleStage.pipeline x stages) = .ok query ∧
      query.text = "FOR " ++ x.name ++ " IN " ++ x.type.name ++
        SimpleStage.clauses suffix x.name 0 stages ++ footer ∧
      (Text.Mentions (SimpleStage.clauses suffix x.name 0 stages) "return" → footer = "") ∧
      (¬ Text.Mentions (SimpleStage.clauses suffix x.name 0 stages) "return" →
        footer = "\nRETURN " ++ x.name) ∧
      query.binds = (stages.flatMap SimpleStage.constants).mapIdx
        (fun count value => (literalNameAt suffix count, value)) ∧
      (query.binds.map Prod.fst).Nodup ∧
      query.gaps = [] := by
  let rows := stages.map (SimpleStage.row x)
  have clauses_eq : RowStage.clauses suffix 0 rows = SimpleStage.clauses suffix x.name 0 stages :=
    SimpleStage.clauses_row x stages suffix 0
  have first_eq : RowStage.firstParameter? rows = some x :=
    SimpleStage.firstParameter?_row x declared
  have header_eq : RowStage.header {} rows = "FOR " ++ x.name ++ " IN " ++ x.type.name := by
    rw [RowStage.header, RowStage.iterator, RowStage.collection, first_eq]
    rfl
  have body_eq : RowStage.body suffix rows = SimpleStage.clauses suffix x.name 0 stages := by
    rw [RowStage.body, SimpleStage.flatMap_skips_row, clauses_eq]
    exact String.ofList_toList
  have footer_eq : RowStage.footer suffix {} rows =
      if Text.occursIn "return".toList (SimpleStage.clauses suffix x.name 0 stages).toList then ""
      else "\nRETURN " ++ x.name := by
    rw [RowStage.footer, RowStage.iterator, first_eq, clauses_eq]
    rfl
  have compact : ({} : Settings).pretty = false := rfl
  obtain ⟨spans, compiled⟩ := RowStage.compile_pipeline distinct compact x.type rows
  rw [SimpleStage.pipeline_row, SimpleStage.flatMap_constants_row, header_eq, body_eq] at compiled
  have mentions := Text.occursIn_iff_mentions (SimpleStage.clauses suffix x.name 0 stages) "return"
  refine ⟨_, _, compiled, rfl, fun mentioned => ?_, fun unmentioned => ?_, rfl,
    literalEntries_nodup distinct _, rfl⟩
  · rw [footer_eq, if_pos (mentions.mpr mentioned)]
  · rw [footer_eq, if_neg fun occurs => unmentioned (mentions.mp occurs)]

/-- The first five of the adults of a name, the oldest first. -/
def SimpleStage.oldestAdults : List SimpleStage :=
  [.compare "Age" (.number "Int32") .greaterThanOrEqual (.integer 18) .boolean,
    .compare "Name" .string .equal (.text "Ada") .boolean,
    .order true "Age" (.number "Int32"),
    .orderFurther false "Key" .string,
    .take 5]

theorem pipeline_text_oldestAdults :
    (∃ stage ∈ SimpleStage.oldestAdults, stage.hasLambda) ∧
      ∃ query, Query.compile .aql {}
          (SimpleStage.pipeline ⟨"u", .named "User"⟩ SimpleStage.oldestAdults) = .ok query ∧
        query.text = "FOR u IN User\nFILTER u.Age >= @p\nFILTER u.Name == @p" ++ paddedSuffix 1 ++
          "\nSORT u.Age DESC, u._key ASC\nLIMIT 5\nRETURN u" ∧
        query.binds.map Prod.fst = ["p", "p" ++ paddedSuffix 1] ∧
        query.gaps = [] := by
  have declared : ∃ stage ∈ SimpleStage.oldestAdults, stage.hasLambda :=
    ⟨_, List.mem_cons_self, rfl⟩
  obtain ⟨query, footer, compiled, text_eq, -, returned, binds_eq, -, complete⟩ :=
    pipeline_text paddedSuffix_injective ⟨"u", .named "User"⟩ SimpleStage.oldestAdults declared
  rw [Query.compileWith_paddedSuffix] at compiled
  have unmentioned : ¬ Text.Mentions
      (SimpleStage.clauses paddedSuffix "u" 0 SimpleStage.oldestAdults) "return" := by
    rw [← Text.occursIn_iff_mentions]
    decide +kernel
  refine ⟨declared, query, compiled, ?_, ?_, complete⟩
  · rw [text_eq, returned unmentioned]
    rfl
  · rw [binds_eq]
    rfl

end AqlPipeline
