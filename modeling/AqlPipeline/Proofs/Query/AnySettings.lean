import AqlPipeline.Proofs.Query.Finish
import AqlPipeline.Proofs.Query.VisitStarts
import AqlPipeline.Proofs.Writer.Twins

/-!
# What settings decide

Settings decide the head of the query and its layout.  Whether an expression can be written, what is
bound, which of its parts are replaced and what is yielded is the same with all of them, as long as
the pretty layout keeps the starts of visits.
-/

namespace AqlPipeline

/-- What a query has besides its text: bind variables, gaps, and the type of what it yields. -/
def Query.findings (query : Query) : List (String × Json) × List Gap × Option String :=
  (query.binds, query.gaps, query.projectionType)

namespace Writer

/-! ## Finished queries -/

theorem finish_findings (writer : Writer) :
    writer.finish.findings = (writer.binds.entries, writer.gaps, writer.facts.projectionType) := by
  obtain ⟨spans, finish_eq⟩ := writer.finish_eq
  rw [finish_eq]
  rfl

/-- The trail does not show in the text of the query. -/
theorem finish_text_atTrail (writer : Writer) (trail : Trail) :
    (writer.atTrail trail).finish.text = writer.finish.text := by
  rw [finish_text, finish_text]
  rfl

/-! ## Two starts -/

/-- Writers of the same query start as twins, whatever the settings. -/
theorem twins_start (settings other : Settings) :
    Twins (other = { settings with trackPathSpans := other.trackPathSpans })
      (.start settings) (.start other) where
  segments := rfl
  gaps := rfl
  binds := rfl
  projection := rfl
  rest agree := by
    rw [agree]
    rfl

/-- Writers that end as twins finish queries with the same findings, and with the same text if only
the recording of spans is set differently. -/
theorem Twins.finish {same : Prop} {writer other : Writer} (twins : Twins same writer other) :
    other.finish.findings = writer.finish.findings ∧
      (same → other.finish.text = writer.finish.text) := by
  constructor
  · rw [finish_findings, finish_findings, twins.binds, twins.gaps, twins.projection]
  · intro agree
    rw [twins.rest agree, finish_text_atTrail]

end Writer

/-- The same expression with any two settings: both queries have the same findings, or there is none
for the same reason, unless one of them crashes with its settings.  If only the recording of spans
differs, the texts are the same as well. -/
theorem Query.compile_twins (dialect : Dialect) (expr : Expr) (settings other : Settings) :
    (∃ query query', compile dialect settings expr = .ok query ∧
      compile dialect other expr = .ok query' ∧ query'.findings = query.findings ∧
      (other = { settings with trackPathSpans := other.trackPathSpans } →
        query'.text = query.text)) ∨
    (∃ failure, compile dialect settings expr = .error failure ∧
      compile dialect other expr = .error failure) ∨
    other ≠ { settings with trackPathSpans := other.trackPathSpans } ∧
      (compile dialect settings expr = .error .crashed ∨
        compile dialect other expr = .error .crashed) := by
  have ended := Writer.run_twins (.enter "" (expr.script dialect {}))
    (Writer.twins_start settings other)
  simp only [compile]
  generalize Writer.run _ (.start settings) = outcome,
    Writer.run _ (.start other) = outcome' at ended
  cases ended with
  | finished twins => exact .inl ⟨_, _, rfl, rfl, twins.finish⟩
  | stopped _ error => exact .inr (.inl ⟨.refused error, rfl, rfl⟩)
  | crashed either both =>
      by_cases agree : other = { settings with trackPathSpans := other.trackPathSpans }
      · obtain ⟨⟨_, rfl⟩, _, rfl⟩ := both agree
        exact .inr (.inl ⟨.crashed, rfl, rfl⟩)
      · refine .inr (.inr ⟨agree, either.imp ?_ ?_⟩)
        · rintro ⟨_, rfl⟩
          rfl
        · rintro ⟨_, rfl⟩
          rfl

theorem Query.map_findings_eq {dialect : Dialect} {expr : Expr} {settings other : Settings}
    (written : compile dialect settings expr ≠ .error .crashed)
    (written' : compile dialect other expr ≠ .error .crashed) :
    (compile dialect settings expr).map findings = (compile dialect other expr).map findings := by
  rcases compile_twins dialect expr settings other with
    ⟨query, query', compiled, compiled', findings_eq, -⟩ | ⟨failure, failed, failed'⟩ |
      ⟨-, crashed | crashed⟩
  · rw [compiled, compiled', Except.map, Except.map, findings_eq]
  · rw [failed, failed']
  · exact absurd crashed written
  · exact absurd crashed written'

/-- Settings decide no more than the head of a query and its layout: with any two of them, an
expression cannot be written for the same reason, or is written with the same bind variables, gaps
and type of what is yielded, unless it crashes in pretty text.  It does not if names in front of the
values of jumps do not end with more than four spaces.  The recording of spans decides neither about
a crash nor about the text. -/
theorem settings_decide_layout_only (dialect : Dialect) (expr : Expr) (settings other : Settings) :
    (settings.pretty = true ∧ Query.compile dialect settings expr = .error .crashed ∨
      other.pretty = true ∧ Query.compile dialect other expr = .error .crashed ∨
      (Query.compile dialect settings expr).map Query.findings =
        (Query.compile dialect other expr).map Query.findings) ∧
    ((settings.pretty = true ∨ other.pretty = true → JumpNarrowly expr.nodes) →
      Query.compile dialect settings expr ≠ .error .crashed ∧
      Query.compile dialect other expr ≠ .error .crashed ∧
      (Query.compile dialect settings expr).map Query.findings =
        (Query.compile dialect other expr).map Query.findings) ∧
    ∀ track, (Query.compile dialect { settings with trackPathSpans := track } expr).map Query.text =
      (Query.compile dialect settings expr).map Query.text := by
  refine ⟨?_, ?_, ?_⟩
  · by_cases crashed : Query.compile dialect settings expr = .error .crashed
    · exact .inl ⟨Query.pretty_of_crashed crashed, crashed⟩
    by_cases crashed' : Query.compile dialect other expr = .error .crashed
    · exact .inr (.inl ⟨Query.pretty_of_crashed crashed', crashed'⟩)
    · exact .inr (.inr (Query.map_findings_eq crashed crashed'))
  · intro narrow
    have written := Query.compile_ne_crashed dialect fun pretty => narrow (.inl pretty)
    have written' := Query.compile_ne_crashed dialect fun pretty => narrow (.inr pretty)
    exact ⟨written, written', Query.map_findings_eq written written'⟩
  · intro track
    rcases Query.compile_twins dialect expr settings { settings with trackPathSpans := track } with
      ⟨query, query', compiled, compiled', -, text_eq⟩ | ⟨failure, failed, failed'⟩ | ⟨differ, -⟩
    · rw [compiled, compiled', Except.map, Except.map, text_eq rfl]
    · rw [failed, failed']
    · exact absurd rfl differ

/-- A jump to a name that ends with four spaces has the same findings in both layouts, also with a
collection and with spans. -/
theorem settings_decide_layout_only_jumpTo :
    JumpNarrowly (Expr.jumpTo "L    " "x").nodes ∧
      ∃ query query',
        Query.compile .aql { pretty := true } (.jumpTo "L    " "x") = .ok query ∧
        Query.compile .aql { collection := some "staff", trackPathSpans := true }
          (.jumpTo "L    " "x") = .ok query' ∧
        query.gaps.map Gap.path = ["Value"] ∧ query.findings = query'.findings := by
  have narrow : JumpNarrowly (Expr.jumpTo "L    " "x").nodes := by decide
  obtain ⟨query, query', compiled, compiled', gaps_eq⟩ : ∃ query query',
      Query.compile .aql { pretty := true } (.jumpTo "L    " "x") = .ok query ∧
      Query.compile .aql { collection := some "staff", trackPathSpans := true }
        (.jumpTo "L    " "x") = .ok query' ∧
      query.gaps.map Gap.path = ["Value"] := ⟨_, _, rfl, rfl, rfl⟩
  obtain ⟨-, same, -⟩ := settings_decide_layout_only .aql (.jumpTo "L    " "x") { pretty := true }
    { collection := some "staff", trackPathSpans := true }
  obtain ⟨-, -, findings_eq⟩ := same fun _ => narrow
  rw [compiled, compiled'] at findings_eq
  exact ⟨narrow, query, query', compiled, compiled', gaps_eq, Except.ok.inj findings_eq⟩

/-- With ten spaces at the end of the name, there is a query in compact text, and a crash in pretty
text. -/
theorem jumpTo_crashes_in_pretty_text :
    Query.compile .aql { pretty := true } (.jumpTo "L          " "x") = .error .crashed ∧
      ∃ query, Query.compile .aql { pretty := false } (.jumpTo "L          " "x") = .ok query ∧
        query.gaps.map Gap.path = ["Value"] :=
  ⟨rfl, _, rfl, rfl⟩

end AqlPipeline
