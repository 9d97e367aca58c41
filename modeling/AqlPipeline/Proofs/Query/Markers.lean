import AqlPipeline.Expr.Build
import AqlPipeline.Proofs.Expr.Places
import AqlPipeline.Proofs.Query.PathSpans
import AqlPipeline.Proofs.Writer.Markers

/-!
# Gaps and markers of a compact query

Each part that is not supported is listed with its path, also one inside of a larger part that turns
out not to be supported later on.  The larger part is cut out as a whole, so the text of the inner
path is gone and only the outer marker is left.
-/

namespace AqlPipeline

theorem findSpan?_shift (path : String) (place count : Nat) (spans : List (String × Span)) :
    findSpan? path (spans.map fun entry => (entry.1, entry.2.shift place count)) =
      (findSpan? path spans).map (·.shift place count) := by
  induction spans with
  | nil => rfl
  | cons head spans ih =>
      rw [List.map_cons, findSpan?, findSpan?, ih]
      split <;> rfl

namespace Writer

variable {writer : Writer}

theorem patchSkips_eq (unskipped : writer.skips = []) : writer.patchSkips = writer := by
  rw [patchSkips, unskipped]
  rfl

/-- Where no rows are left out, a path has the text of its span behind the head of the query. -/
theorem textAt?_finish (tracked : writer.trail.spans.isSome) (unskipped : writer.skips = [])
    (path : String) :
    writer.finish.textAt? path = (findSpan? path writer.recorded).bind fun span =>
      Text.slice? (writer.header ++ writer.output.text ++ writer.footer)
        (span.offset + writer.header.utf8ByteSize) span.length := by
  obtain ⟨spans, spans_eq⟩ := Option.isSome_iff_exists.mp tracked
  have patched := patchSkips_eq unskipped
  have recorded_eq : writer.recorded = spans := by simp [recorded, spans_eq]
  have finished : writer.finish.spans =
      some (spans.map fun entry => (entry.1, entry.2.shift 0 writer.header.utf8ByteSize)) := by
    simp [finish, patched, Trail.shiftAll, Trail.shift, Trail.mapSpans, spans_eq]
  have text_eq : writer.finish.text = writer.header ++ writer.output.text ++ writer.footer := by
    simp [finish, patched]
  simp only [Query.textAt?, finished, text_eq, recorded_eq, Option.bind_eq_bind, Option.bind_some,
    findSpan?_shift]
  cases findSpan? path spans with
  | none => rfl
  | some span => simp [Span.shift]

/-- A marker in the body is the text of its path in the query. -/
theorem Marks.textAt?_finish {gap : Gap} (marks : writer.Marks gap)
    (tracked : writer.trail.spans.isSome) (unskipped : writer.skips = []) :
    writer.finish.textAt? gap.path = some (marker gap.message) := by
  obtain ⟨span, found, sliced⟩ := marks
  rw [Writer.textAt?_finish tracked unskipped, found]
  apply Text.slice?_append
  have behind : Text.slice? ("" ++ writer.header ++ writer.output.text)
      (span.offset + writer.header.utf8ByteSize) span.length = some (marker gap.message) :=
    Text.slice?_insert_front (by rwa [String.empty_append]) (Nat.zero_le _)
  rwa [String.empty_append] at behind

end Writer

/-- In a compact query without rows to leave out, the text of each part that is not supported is its
marker if the part is not inside of another such part.  If it is, it has no text, and one of those
around it has its marker. -/
theorem gaps_marked {dialect : Dialect} {settings : Settings} {expr : Expr} {query : Query}
    (compact : settings.pretty = false) (tracked : settings.trackPathSpans = true)
    (unskipped : ∀ node ∈ expr.nodes, node.isSkip = false)
    (compiled : Query.compile dialect settings expr = .ok query) :
    ∀ entry ∈ query.gaps,
      ((∀ outer ∈ query.gaps, ¬ Trail.Encloses outer.path entry.path) ∧
        query.textAt? entry.path = some ("\n// NOT IMPLEMENTED: " ++ entry.message ++ "\n")) ∨
      (query.textAt? entry.path = none ∧
        ∃ outer ∈ query.gaps, Trail.Encloses outer.path entry.path ∧
          query.textAt? outer.path =
            some ("\n// NOT IMPLEMENTED: " ++ outer.message ++ "\n")) := by
  obtain ⟨writer, ran, rfl⟩ := Query.run_of_compile compiled
  have orderly : (expr.script dialect {}).Orderly False :=
    expr.script_orderly (fun node member skip => by simp [unskipped node member] at skip) {}
  have traces : (Writer.start settings).Traces :=
    ⟨compact, by simp [Writer.start, Trail.start, tracked]⟩
  have fresh : (Writer.start settings).recorded = [] := by
    simp [Writer.recorded, Writer.start, Trail.start, tracked]
  have leads := (Writer.leads_of_run _ _).1 writer ran
  have writer_traces := leads.traces traces
  have left : writer.skips = [] := leads.enter_skips_eq orderly
  have gaps_eq : writer.finish.gaps =
      (Script.enter "" (expr.script dialect {})).gaps (Writer.start settings).trail.segments := by
    have ended := Writer.run_ends (.enter "" (expr.script dialect {})) (.start settings)
    rw [ran] at ended
    obtain ⟨-, -, after_gaps⟩ := ended
    rw [Writer.finish, Writer.patchSkips_eq left]
    exact after_gaps
  intro entry member
  rw [gaps_eq] at member ⊢
  rcases leads.accounts orderly traces fresh member with
    ⟨outermost, marks⟩ | ⟨absent, outer, around, encloses, marks⟩
  · exact .inl ⟨outermost, marks.textAt?_finish writer_traces.tracked left⟩
  · refine .inr ⟨?_, outer, around, encloses, marks.textAt?_finish writer_traces.tracked left⟩
    rw [Writer.textAt?_finish writer_traces.tracked left, findSpan?_eq_none_iff.mpr absent]
    rfl

/-- A value that is not supported. -/
def forgottenAge : Expr :=
  .late (.deleteMember "Age") [.parameter ⟨"u", .named "User"⟩] (.named "User")

/-- A value that is not supported beside a text that cannot be evaluated, so that comparing them is
not supported either. -/
def comparedWithSecret : Expr :=
  .equals forgottenAge (.applied .typeAs (.stringConstant "secret") .string)

/-- The value inside of the first operand has no text, and the operand has its marker. -/
theorem gaps_marked_operands :
    ∃ query entry, Query.compile .aql { trackPathSpans := true }
        (.equals comparedWithSecret forgottenAge) = .ok query ∧
      (∀ node ∈ (Expr.equals comparedWithSecret forgottenAge).nodes, node.isSkip = false) ∧
      query.gaps.map Gap.path = ["Left.Left", "Left", "Right"] ∧
      entry ∈ query.gaps ∧ entry.path = "Left.Left" ∧ query.textAt? entry.path = none ∧
      ∃ outer ∈ query.gaps, Trail.Encloses outer.path entry.path ∧
        query.textAt? outer.path = some ("\n// NOT IMPLEMENTED: " ++ outer.message ++ "\n") := by
  obtain ⟨query, compiled, gaps_eq⟩ : ∃ query, Query.compile .aql { trackPathSpans := true }
      (.equals comparedWithSecret forgottenAge) = .ok query ∧
      query.gaps = [⟨"Left.Left", "deleting the member 'Age'"⟩,
        ⟨"Left", "a string operand that cannot be evaluated before the query runs"⟩,
        ⟨"Right", "deleting the member 'Age'"⟩] := ⟨_, rfl, by decide +kernel⟩
  have unskipped : ∀ node ∈ (Expr.equals comparedWithSecret forgottenAge).nodes,
      node.isSkip = false := by decide
  have inner : (⟨"Left.Left", "deleting the member 'Age'"⟩ : Gap) ∈ query.gaps := by simp [gaps_eq]
  refine ⟨query, _, compiled, unskipped, by rw [gaps_eq]; rfl, inner, rfl, ?_⟩
  rcases gaps_marked rfl rfl unskipped compiled _ inner with ⟨outermost, -⟩ | hidden
  · have around : (⟨"Left", "a string operand that cannot be evaluated before the query runs"⟩ :
      Gap) ∈ query.gaps := by simp [gaps_eq]
    exact absurd (.inr ⟨"Left", rfl⟩) (outermost _ around)
  · exact hidden

/-- The value is listed, but only the comparison has a marker. -/
theorem gap_without_marker :
    (∀ node ∈ comparedWithSecret.nodes, node.isSkip = false) ∧
    ∃ query entry, Query.compile .aql { trackPathSpans := true } comparedWithSecret = .ok query ∧
      entry ∈ query.gaps ∧
      query.textAt? entry.path ≠ some ("\n// NOT IMPLEMENTED: " ++ entry.message ++ "\n") := by
  refine ⟨by decide, _, ⟨"Left", "deleting the member 'Age'"⟩, rfl, ?_, ?_⟩
  · decide +kernel
  · decide

end AqlPipeline
