import AqlPipeline.Proofs.Expr.Stages
import AqlPipeline.Proofs.Expr.Uniform
import AqlPipeline.Proofs.Query.AnySettings
import AqlPipeline.Proofs.Writer.Declared
import AqlPipeline.Proofs.Writer.Uniform
import AqlPipeline.Proofs.Writer.Walk
import Mathlib.Data.List.Induction

/-!
# The names that stages give their parameters

Each stage of a pipeline has a lambda with a parameter of its own.  The loop of the query binds the
parameter of the first stage, and each clause is worded with the name of its own stage's parameter.
So the names may be chosen freely as long as no stage refers to its parameter by another name than
the first one.
-/

namespace AqlPipeline

/-- A stage of a pipeline, with its lambda. -/
structure LambdaClause where
  /-- The stage. -/
  stage : LambdaStage
  /-- The parameter of the lambda. -/
  parameter : Parameter
  /-- The body of the lambda. -/
  body : Expr

namespace LambdaClause

/-- The lambda of the stage. -/
def lambda (clause : LambdaClause) : Expr :=
  .function [clause.parameter] clause.body

/-- The stage behind a source. -/
def onto (source : Expr) (clause : LambdaClause) : Expr :=
  .stage clause.stage.methodName source clause.lambda

/-- A pipeline of stages over the documents of a type. -/
def pipeline (element : TypeRef) (clauses : List LambdaClause) : Expr :=
  clauses.foldl onto (.source element)

/-- The stage with another name for its parameter, wherever it refers to it. -/
def named (name : String) (clause : LambdaClause) : LambdaClause where
  stage := clause.stage
  parameter := { clause.parameter with name }
  body := clause.body.renamed clause.parameter.name name

/-- Stages with other names for their parameters, by the position of the stage. -/
def allNamed (names : Nat → String) (clauses : List LambdaClause) : List LambdaClause :=
  clauses.mapIdx fun position clause => clause.named (names position)

/-- The names of the parameters of some stages. -/
def ownNames (clauses : List LambdaClause) (position : Nat) : String :=
  (clauses[position]?.map (·.parameter.name)).getD ""

variable {element : TypeRef}

theorem onto_script (source : Expr) (clause : LambdaClause) :
    (onto source clause).script .aql {} =
      .visit "Arguments[0]" (source.script .aql {})
        (Expr.clauseScript .aql clause.stage clause.lambda) :=
  Expr.stage_script clause.stage source clause.lambda

theorem pipeline_concat (clauses : List LambdaClause) (clause : LambdaClause) :
    pipeline element (clauses ++ [clause]) = onto (pipeline element clauses) clause := by
  simp [pipeline]

theorem allNamed_concat (names : Nat → String) (clauses : List LambdaClause)
    (clause : LambdaClause) :
    allNamed names (clauses ++ [clause]) =
      allNamed names clauses ++ [clause.named (names clauses.length)] :=
  List.mapIdx_concat

theorem named_own (clause : LambdaClause) : clause.named clause.parameter.name = clause := by
  simp [named, Expr.renamed_self]

theorem allNamed_own (clauses : List LambdaClause) :
    allNamed (ownNames clauses) clauses = clauses := by
  apply List.ext_getElem (by simp [allNamed])
  intro position bound bound'
  simp [allNamed, ownNames, bound', named_own]

/-! ## The first parameter -/

theorem clause_opens (clause : LambdaClause) :
    (Expr.clauseScript .aql clause.stage clause.lambda).Opens clause.parameter :=
  .step (fun _ => rfl) <| .inside "Arguments[1]" _ <| .step (fun _ => rfl) <|
    .step (fun _ => rfl) <| .step (fun _ => rfl) <| .inside "Operand" _ <|
      .inside "Parameters[0]" _ <| .declare _

theorem pipeline_opens (first : LambdaClause) (others : List LambdaClause) :
    ((pipeline element (first :: others)).script .aql {}).Opens first.parameter := by
  induction others using List.reverseRecOn with
  | nil =>
      change ((onto (.source element) first).script .aql {}).Opens first.parameter
      rw [onto_script]
      exact .behind _ _ (clause_opens first)
  | append_singleton others last ih =>
      rw [← List.cons_append, pipeline_concat, onto_script]
      exact .inside _ _ ih

/-- Whether a stage may be given a name for its parameter without a trace: it is called so, or the
lambda does not refer to it. -/
def IsFree (name : String) (clause : LambdaClause) : Prop :=
  clause.parameter.name = name ∨ ¬ clause.body.RefersTo clause.parameter.name

theorem body_named_of_isFree {name : String} {clause : LambdaClause} (free : clause.IsFree name) :
    (clause.named name).body = clause.body := by
  rcases free with rfl | unused
  · exact Expr.renamed_self _ _
  · exact Expr.renamed_of_not_refersTo _ _ unused

theorem clause_redeclares {name : String} {clause : LambdaClause} (free : clause.IsFree name) :
    (Expr.clauseScript .aql clause.stage clause.lambda).Redeclares
      (Expr.clauseScript .aql clause.stage (clause.named name).lambda) := by
  rw [lambda, lambda, body_named_of_isFree free]
  exact .step _ <| .visit "Arguments[1]" (.step _ <| .step _ <| .step _ <| .visit "Operand"
    (.visit "Parameters[0]" (.declare _ _ .done) (.refl _)) (.refl _)) (.refl _)

theorem pipeline_redeclares (element : TypeRef) {first : LambdaClause}
    {others : List LambdaClause}
    (free : ∀ clause ∈ others, clause.IsFree first.parameter.name) :
    ((pipeline element (first :: others)).script .aql {}).Redeclares
      ((pipeline element (allNamed (fun _ => first.parameter.name)
        (first :: others))).script .aql {}) := by
  induction others using List.reverseRecOn with
  | nil =>
      have named_eq : allNamed (fun _ => first.parameter.name) [first] = [first] :=
        congrArg ([·]) (named_own first)
      rw [named_eq]
      exact .refl _
  | append_singleton others last ih =>
      obtain ⟨earlier, lastFree⟩ := List.forall_mem_append.mp free
      rw [← List.cons_append, allNamed_concat, pipeline_concat, pipeline_concat, onto_script,
        onto_script]
      exact .visit _ (ih earlier) (clause_redeclares (lastFree last List.mem_cons_self))

end LambdaClause

/-! ## Jumps -/

theorem Expr.jumpName?_renamed (old new : String) (expr : Expr) :
    (expr.renamed old new).jumpName? = expr.jumpName? := by
  cases expr with
  | goto _ target value =>
      cases target with
      | none => rfl
      | some _ => cases value <;> rfl
  | _ => rfl

theorem JumpNarrowly.renamed {expr : Expr} (narrow : JumpNarrowly expr.nodes) (old new : String) :
    JumpNarrowly (expr.renamed old new).nodes := by
  intro node member name named
  obtain ⟨original, below, rfl⟩ := Expr.mem_nodes_renamed old new member
  rw [Expr.jumpName?_renamed] at named
  exact narrow original below name named

namespace LambdaClause

theorem pipeline_narrow {clauses : List LambdaClause}
    (narrow : ∀ clause ∈ clauses, JumpNarrowly clause.body.nodes) :
    JumpNarrowly (pipeline element clauses).nodes := by
  induction clauses using List.reverseRecOn with
  | nil => simp [JumpNarrowly, pipeline, Expr.source, Expr.nodes, Expr.jumpName?]
  | append_singleton clauses last ih =>
      obtain ⟨earlier, lastNarrow⟩ := List.forall_mem_append.mp narrow
      rw [pipeline_concat]
      have nodes_eq : (onto (pipeline element clauses) last).nodes =
          onto (pipeline element clauses) last :: ((pipeline element clauses).nodes ++
            (.quoted last.lambda :: last.lambda :: last.body.nodes)) := by
        simp [onto, Expr.stage, Expr.extensionCall, Expr.quoted, Expr.applied, lambda,
          Expr.function, Expr.nodes, Expr.optionNodes, Expr.listNodes]
      rw [nodes_eq]
      intro node member name named
      simp only [List.mem_cons, List.mem_append] at member
      rcases member with rfl | member | rfl | rfl | member
      · cases named
      · exact ih earlier node member name named
      · cases named
      · cases named
      · exact lastNarrow last List.mem_cons_self node member name named

theorem allNamed_narrow {clauses : List LambdaClause}
    (narrow : ∀ clause ∈ clauses, JumpNarrowly clause.body.nodes) (names : Nat → String) :
    ∀ clause ∈ allNamed names clauses, JumpNarrowly clause.body.nodes := by
  intro clause member
  obtain ⟨position, bound, rfl⟩ := List.mem_mapIdx.mp member
  exact (narrow _ (List.getElem_mem bound)).renamed _ _

/-! ## Clauses -/

/-- A clause is written uniformly in the name of its parameter. -/
theorem lambda_uniform (clause : LambdaClause) :
    Script.Uniform fun name => (Expr.quoted (clause.named name).lambda).script .aql {} := by
  have declared : Script.Uniform fun name => Script.inLine "Parameters" ""
      ([(clause.named name).parameter].map Render.declaration) :=
    .enter _ (.declare clause.parameter.type .done)
  have bodies : Part.Uniform clause.parameter.name fun name =>
      ⟨(clause.named name).body, (clause.named name).body.script .aql⟩ :=
    ⟨⟨clause.body, fun _ => rfl⟩, clause.body.script_uniform clause.parameter.name⟩
  have lambda := Render.lambda_uniform declared bodies
  exact .step .trim (((Script.Uniform.const .openLines).append (.enter "Operand" lambda)).append
    (.const .dedent))

/-- The text of some clauses, given the wording of each of them. -/
def clausesText (names : Nat → String) (wordings : List (LambdaStage × List Piece)) : String :=
  String.join <| wordings.mapIdx fun position (stage, wording) =>
    stage.opening ++ Piece.spellAll (names position) (names 0) wording ++ stage.closing?.getD ""

theorem clausesText_concat (names : Nat → String) (wordings : List (LambdaStage × List Piece))
    (stage : LambdaStage) (wording : List Piece) :
    clausesText names (wordings ++ [(stage, wording)]) = clausesText names wordings ++
      (stage.opening ++ (Piece.spellAll (names wordings.length) (names 0) wording ++
        stage.closing?.getD "")) := by
  simp [clausesText, String.join_append, String.append_assoc]

open Writer

/-- How the runs of scripts for all names end: at the same error, which stops the whole query, or
at the end with a text that is told for all names. -/
def RunAlike (script : (Nat → String) → Script) (base : Writer)
    (texts : ((Nat → String) → String) → Prop) : Prop :=
  (∃ error after more, error.isRecoverable = false ∧
    Adds script (· 0) base (some error) after more) ∨
  ∃ after text, after.output.pretty = false ∧ texts text ∧ Adds script (· 0) base none after text

/-- The lambda of a stage, with the name of its parameter by position. -/
theorem enter_lambda_runAlike (clause : LambdaClause) (position : Nat) {base : Writer}
    (compact : base.output.pretty = false) :
    RunAlike (fun names => .enter "Arguments[1]"
        ((Expr.quoted (clause.named (names position)).lambda).script .aql {})) base
      fun text => ∃ wording, text = fun names =>
        Piece.spellAll (names position) (names 0) wording := by
  have uniform := Script.Uniform.enter "Arguments[1]" clause.lambda_uniform
  obtain ⟨failure, after, wording, layout, adds⟩ :=
    uniform.adds (fun names : Nat → String => names position) (· 0) compact
  cases failure with
  | none => exact .inr ⟨after, _, layout, ⟨wording, rfl⟩, adds⟩
  | some error =>
      refine .inl ⟨error, after, _, ?_, adds⟩
      cases error with
      | notSupported thing =>
          obtain ⟨spans, stopped⟩ := adds (fun _ => "") "" none
          rw [run_enter] at stopped
          exact (close_ne_notSupported _ _ _ _ stopped).elim
      | _ => rfl

/-- A clause is its words around what its lambda writes. -/
theorem clause_runAlike (clause : LambdaClause) (position : Nat) {base : Writer}
    (compact : base.output.pretty = false) :
    RunAlike (fun names =>
        Expr.clauseScript .aql clause.stage (clause.named (names position)).lambda) base
      fun text => ∃ wording, text = fun names => clause.stage.opening ++
        (Piece.spellAll (names position) (names 0) wording ++ clause.stage.closing?.getD "") := by
  rcases @enter_lambda_runAlike clause position (base.append clause.stage.opening) compact with
    ⟨error, after, more, fatal, adds⟩ | ⟨middle, _, layout, ⟨wording, rfl⟩, adds⟩
  · exact .inl ⟨error, after, _, fatal, .step (fun _ _ _ => rfl) (adds.append_stopped _)⟩
  · let after := middle.append (clause.stage.closing?.getD "")
    refine .inr ⟨after, _, layout, ⟨wording, rfl⟩, .step (fun _ _ _ => rfl) (adds.append ?_)⟩
    intro names text spans
    refine ⟨spans, ?_⟩
    cases clause.stage.closing? with
    | none => rw [Option.getD_none, String.append_empty]; rfl
    | some words => rfl

/-- A pipeline is written clause by clause, each of them worded with the name of its own stage and
that of the first one. -/
theorem pipeline_runAlike (element : TypeRef) (clauses : List LambdaClause) {base : Writer}
    (compact : base.output.pretty = false) :
    RunAlike (fun names => (pipeline element (allNamed names clauses)).script .aql {}) base
      fun text => ∃ wordings : List (LambdaStage × List Piece),
        wordings.map Prod.fst = clauses.map LambdaClause.stage ∧
          text = fun names => clausesText names wordings := by
  induction clauses using List.reverseRecOn generalizing base with
  | nil =>
      refine .inr ⟨base, _, compact, ⟨[], rfl, rfl⟩, fun names text spans => ⟨spans, ?_⟩⟩
      rfl
  | append_singleton clauses last ih =>
      simp only [allNamed_concat, pipeline_concat, onto_script]
      rcases @ih (base.enter "Arguments[0]") compact with
        ⟨error, after, more, fatal, adds⟩ | ⟨middle, _, layout, ⟨wordings, stages_eq, rfl⟩, adds⟩
      · exact .inl ⟨error, after, more, fatal, (adds.stopped fatal).append_stopped _⟩
      · have length_eq : clauses.length = wordings.length := by
          simpa using congrArg List.length stages_eq.symm
        rcases @clause_runAlike last clauses.length { middle with trail := base.trail } layout with
          ⟨error, after, more, fatal, next⟩ | ⟨after, _, layout, ⟨wording, rfl⟩, next⟩
        · exact .inl ⟨error, after, _, fatal, (adds.enter compact).append next⟩
        · refine .inr ⟨after, _, layout, ⟨wordings ++ [(last.stage, wording)], ?_, ?_⟩,
            (adds.enter compact).append next⟩
          · simp [stages_eq]
          · funext names
            rw [clausesText_concat, length_eq]

end LambdaClause

/-! ## Queries -/

/-- A query in which the names of the stages' parameters are left open. -/
structure QueryTemplate where
  /-- The collection to iterate over. -/
  collection : String
  /-- The stages, with the wording of what their lambdas write. -/
  clauses : List (LambdaStage × List Piece)
  /-- The numbers of rows to leave out. -/
  skips : List Int
  /-- Bind variables, gaps, and the type of what is yielded. -/
  findings : List (String × Json) × List Gap × Option String

namespace QueryTemplate

/-- The body of the query, given the names by the position of the stage. -/
def body (template : QueryTemplate) (names : Nat → String) : String :=
  LambdaClause.clausesText names template.clauses

/-- The text of the query: the loop binds the name of the first stage, which is also returned unless
the body returns something. -/
def text (template : QueryTemplate) (names : Nat → String) : String :=
  "FOR " ++ names 0 ++ " IN " ++ template.collection ++
    .ofList (template.skips.foldl Writer.patchedText (template.body names).toList) ++
      if Text.occursIn "return".toList (template.body names).toList then ""
      else "\nRETURN " ++ names 0

end QueryTemplate

open LambdaClause

section Compile

variable (settings : Settings) (element : TypeRef) (first : LambdaClause)
  (others : List LambdaClause)

/-- The writer of a pipeline may as well know the first parameter from the start. -/
theorem run_pipeline_declared :
    Writer.run (.enter "" ((pipeline element (first :: others)).script .aql {})) (.start settings) =
      Writer.run (.enter "" ((pipeline element (first :: others)).script .aql {}))
        ((Writer.start settings).apply (.declare first.parameter)) :=
  (Writer.run_of_opens ((pipeline_opens first others).enter "") _).symm

/-- Names that do not show may be replaced by that of the first stage. -/
theorem compile_of_isFree (free : ∀ clause ∈ others, clause.IsFree first.parameter.name) :
    Query.compile .aql settings (pipeline element (first :: others)) =
      Query.compile .aql settings
        (pipeline element (allNamed (fun _ => first.parameter.name) (first :: others))) := by
  have same := (Writer.run_redeclared ((pipeline_redeclares element free).enter "")
    (Writer.isSettled_declare (.start settings) first.parameter)).1
  have named_eq : allNamed (fun _ => first.parameter.name) (first :: others) =
      first :: others.mapIdx fun _ clause => clause.named first.parameter.name := by
    rw [allNamed, List.mapIdx_cons, named_own]
  rw [named_eq] at same ⊢
  rw [Query.compile, Query.compile, run_pipeline_declared, run_pipeline_declared, same]

/-- The compact queries of a pipeline for all names of its parameters. -/
theorem compile_compact_template (compact : settings.pretty = false) :
    (∃ error, ∀ names, Query.compile .aql settings
        (pipeline element (allNamed names (first :: others))) = .error (.refused error)) ∨
      ∃ template : QueryTemplate,
        template.clauses.map Prod.fst = (first :: others).map LambdaClause.stage ∧
        ∀ names, ∃ query, Query.compile .aql settings
          (pipeline element (allNamed names (first :: others))) = .ok query ∧
          query.findings = template.findings ∧ query.text = template.text names := by
  let base := (Writer.start settings).apply (.declare ⟨"", first.parameter.type⟩)
  let spans := (Writer.start settings).trail.spans
  -- the first parameter is known from the start, under any name
  have started : ∀ names : Nat → String,
      Writer.run (.enter "" ((pipeline element (allNamed names (first :: others))).script .aql {}))
        (.start settings) =
      Writer.run (.enter "" ((pipeline element (allNamed names (first :: others))).script .aql {}))
        (base.worded "" spans (names 0)) := by
    intro names
    rw [allNamed, List.mapIdx_cons, run_pipeline_declared]
    rfl
  rcases @pipeline_runAlike element (first :: others) (base.enter "") compact with
    ⟨error, after, more, fatal, adds⟩ | ⟨after, _, -, ⟨wordings, stages_eq, rfl⟩, adds⟩
  · refine .inl ⟨error, fun names => ?_⟩
    obtain ⟨spans', stopped⟩ := adds.stopped fatal names "" spans
    rw [Query.compile, started, stopped]
    rfl
  · refine .inr ⟨⟨after.facts.collection.getD "", wordings, after.skips, after.binds.entries,
      after.gaps, after.facts.projectionType⟩, stages_eq, fun names => ?_⟩
    obtain ⟨spans', finished⟩ := adds.enter compact names "" spans
    rw [String.empty_append] at finished
    refine ⟨_, by rw [Query.compile, started, finished]; rfl, ?_⟩
    exact ⟨Writer.finish_findings _, Writer.finish_text _⟩

/-- The layout changes neither whether a pipeline can be written nor what is found, unless there is a
jump in it that makes pretty text crash. -/
theorem compile_template
    (narrow : settings.pretty = true → ∀ clause ∈ first :: others, JumpNarrowly clause.body.nodes) :
    (∃ error, ∀ names, Query.compile .aql settings
        (pipeline element (allNamed names (first :: others))) = .error (.refused error)) ∨
      ∃ template : QueryTemplate,
        template.clauses.map Prod.fst = (first :: others).map LambdaClause.stage ∧
        ∀ names, ∃ query, Query.compile .aql settings
          (pipeline element (allNamed names (first :: others))) = .ok query ∧
          query.findings = template.findings ∧
          (settings.pretty = false → query.text = template.text names) := by
  let layout : Settings := { settings with pretty := false }
  have layout_eq : settings.pretty = false → layout = settings := by
    intro compact
    simp only [layout, ← compact]
  have same : ∀ names, (Query.compile .aql layout
      (pipeline element (allNamed names (first :: others)))).map Query.findings =
      (Query.compile .aql settings
        (pipeline element (allNamed names (first :: others)))).map Query.findings := by
    intro names
    refine Query.map_findings_eq (Query.compile_ne_crashed .aql nofun) ?_
    exact Query.compile_ne_crashed .aql fun pretty =>
      pipeline_narrow (allNamed_narrow (narrow pretty) names)
  rcases compile_compact_template layout element first others rfl with
    ⟨error, failed⟩ | ⟨template, stages_eq, compiled⟩
  · refine .inl ⟨error, fun names => ?_⟩
    have same := same names
    rw [failed names] at same
    cases own : Query.compile .aql settings
        (pipeline element (allNamed names (first :: others))) with
    | error failure =>
        rw [own] at same
        cases same
        rfl
    | ok query =>
        rw [own] at same
        cases same
  · refine .inr ⟨template, stages_eq, fun names => ?_⟩
    obtain ⟨compactQuery, compactCompiled, findings_eq, text_eq⟩ := compiled names
    have same := same names
    rw [compactCompiled] at same
    cases own : Query.compile .aql settings
        (pipeline element (allNamed names (first :: others))) with
    | error failure =>
        rw [own] at same
        cases same
    | ok query =>
        rw [own] at same
        refine ⟨query, rfl, (Except.ok.inj same).symm.trans findings_eq, fun compact => ?_⟩
        rw [← text_eq]
        rw [layout_eq compact, own] at compactCompiled
        exact congrArg Query.text (Except.ok.inj compactCompiled)

end Compile

/-- The names of the stages' parameters do not matter for the query as long as each stage calls its
parameter like the first one does or does not refer to it.  In general, the queries for all names
bind and replace the same, and compact ones are the same but for the names in their text: the loop
binds that of the first stage, and each clause is worded with that of its own stage.  In pretty text,
names in front of the values of jumps must not end with more than four spaces for that. -/
theorem stage_names_kept (settings : Settings) (element : TypeRef) (first : LambdaClause)
    (others : List LambdaClause) :
    allNamed (ownNames (first :: others)) (first :: others) = first :: others ∧
    ((∀ clause ∈ others, clause.IsFree first.parameter.name) →
      Query.compile .aql settings (pipeline element (first :: others)) =
        Query.compile .aql settings
          (pipeline element (allNamed (fun _ => first.parameter.name) (first :: others)))) ∧
    ((settings.pretty = true → ∀ clause ∈ first :: others, JumpNarrowly clause.body.nodes) →
      (∃ error, ∀ names, Query.compile .aql settings
        (pipeline element (allNamed names (first :: others))) = .error (.refused error)) ∨
      ∃ template : QueryTemplate,
        template.clauses.map Prod.fst = (first :: others).map LambdaClause.stage ∧
        ∀ names, ∃ query, Query.compile .aql settings
          (pipeline element (allNamed names (first :: others))) = .ok query ∧
          query.findings = template.findings ∧
          (settings.pretty = false → query.text = template.text names)) :=
  ⟨allNamed_own _, compile_of_isFree settings element first others,
    compile_template settings element first others⟩

/-- A stage that compares a member of its parameter with a number. -/
def LambdaClause.comparing (name member : String) (value : Int) : LambdaClause :=
  ⟨.filter, ⟨name, .named "User"⟩,
    .equals (.memberOf (.parameter ⟨name, .named "User"⟩) member (.number "Int32"))
      (.intConstant value)⟩

/-- A stage that does not refer to its parameter. -/
def LambdaClause.yieldingOne : LambdaClause :=
  ⟨.select, ⟨"row", .named "User"⟩, .intConstant 1⟩

theorem stage_names_kept_yieldingOne :
    LambdaClause.yieldingOne.IsFree "x" ∧
    ∃ query, query.text = "FOR x IN User\nFILTER x.A == @p\nRETURN 1" ∧
      Query.compile .aql {} (pipeline (.named "User") [.comparing "x" "A" 1, .yieldingOne]) =
        .ok query ∧
      Query.compile .aql {}
        (pipeline (.named "User") (allNamed (fun _ => "x") [.comparing "x" "A" 1, .yieldingOne])) =
        .ok query := by
  have free : LambdaClause.yieldingOne.IsFree "x" := by
    refine .inr ?_
    rintro ⟨reference, member, -⟩
    cases member with
    | tail _ member => cases member
  obtain ⟨query, compiled, text_eq⟩ : ∃ query,
      Query.compile .aql {} (pipeline (.named "User") [.comparing "x" "A" 1, .yieldingOne]) =
        .ok query ∧
      query.text = "FOR x IN User\nFILTER x.A == @p\nRETURN 1" := ⟨_, rfl, rfl⟩
  refine ⟨free, query, text_eq, compiled, ?_⟩
  rw [← compiled]
  obtain ⟨-, same, -⟩ :=
    stage_names_kept {} (.named "User") (.comparing "x" "A" 1) [.yieldingOne]
  exact (same fun clause member => List.mem_singleton.mp member ▸ free).symm

/-- A second stage that calls its parameter otherwise refers to a name that the loop does not
bind. -/
theorem later_name_unbound :
    ∃ query other : Query,
      Query.compile .aql {}
        (pipeline (.named "User") [.comparing "x" "A" 1, .comparing "y" "B" 2]) = .ok query ∧
      Query.compile .aql {} (pipeline (.named "User")
        (allNamed (fun _ => "x") [.comparing "x" "A" 1, .comparing "y" "B" 2])) = .ok other ∧
      query.text = "FOR x IN User\nFILTER x.A == @p\nFILTER y.B == " ++
        "@p00000000000000000000000000000001\nRETURN x" ∧
      other.text = "FOR x IN User\nFILTER x.A == @p\nFILTER x.B == " ++
        "@p00000000000000000000000000000001\nRETURN x" ∧
      query.text ≠ other.text := by
  refine ⟨_, _, rfl, rfl, ?_, ?_, ?_⟩
  · decide +kernel
  · decide +kernel
  · decide

end AqlPipeline
