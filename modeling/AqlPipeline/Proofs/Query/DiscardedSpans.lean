import AqlPipeline.Proofs.Query.PathSpans
import AqlPipeline.Proofs.Writer.Markers

/-!
# Spans beside a part that is replaced

When a part is replaced by its marker, the spans that start where its text started, or behind, are
forgotten.  Spans of other parts that have text start in front of it and stay.  Those of parts
without any text may start at the same place, and then they are forgotten as well.
-/

namespace AqlPipeline

theorem mem_setSpan_of_ne {path : String} {entry : String × Span} (differ : entry.1 ≠ path)
    (span : Span) (spans : List (String × Span)) :
    entry ∈ setSpan path span spans ↔ entry ∈ spans := by
  induction spans with
  | nil =>
      simp only [setSpan, List.mem_singleton, List.not_mem_nil, iff_false]
      rintro rfl
      exact differ rfl
  | cons head spans ih =>
      obtain ⟨other, old⟩ := head
      rw [setSpan]
      split
      · rename_i same
        subst same
        have apart : ∀ span, entry ≠ (other, span) := by
          rintro span rfl
          exact differ rfl
        simp [apart]
      · rw [List.mem_cons, List.mem_cons, ih]

namespace Trail

theorem Covers.trans {outer middle inner : String} (outers : Covers outer middle)
    (inners : Covers middle inner) : Covers outer inner := by
  rcases inners with rfl | encloses
  · exact outers
  · exact .inr (outers.encloses encloses)

/-- A path covers those of all visits from it. -/
theorem covers_within (segment : String) (segments : List String) :
    Covers (joined segments) (joined (within segment segments)) := by
  by_cases blank : Text.isAllBlank segment
  · exact .inl (by rw [within, if_pos blank])
  · rw [within, if_neg blank]
    exact .inr (encloses_joined (Script.ne_empty_of_isAllBlank (by simpa using blank)) segments)

/-- A path does not cover those that start with another character. -/
theorem not_covers_of_head {outer inner : String} (named : outer ≠ "")
    (differ : inner.toList.head? ≠ outer.toList.head?) : ¬ Covers outer inner := by
  intro covers
  obtain ⟨rest, rfl, -⟩ := covers.behind named
  have first : outer.toList ≠ [] := by simpa using named
  rw [String.toList_append, List.head?_append, List.head?_eq_some_head first] at differ
  exact differ rfl

end Trail

namespace Writer

open Trail

variable {segment : String} {script body : Script} {before inside left after : Writer}

/-- A run neither records spans of paths that its own path does not cover, nor forgets those of them
that start in the text from before. -/
theorem Leads.recorded_elsewhere (leads : Leads script before after) (traces : before.Traces)
    {entry : String × Span} (elsewhere : ¬ Covers (joined before.trail.segments) entry.1) :
    (entry ∈ after.recorded → entry ∈ before.recorded) ∧
      (entry ∈ before.recorded → entry.2.offset < before.output.size → entry ∈ after.recorded) := by
  induction leads with
  | done writer => exact ⟨id, fun member _ => member⟩
  | fail _ writer => exact ⟨id, fun member _ => member⟩
  | @step first rest before after rests ih =>
      have extended := extends_apply before first
      rw [← extended.segments] at elsewhere
      obtain ⟨old, kept⟩ := ih (traces.apply first) elsewhere
      rw [recorded_apply] at old kept
      exact ⟨old, fun member early =>
        kept member (Nat.lt_of_lt_of_le early (extended.size_le traces.compact))⟩
  | @visit segment body rest before inside left after bodies leaves rests bodyIh restIh =>
      have extended := leaves.extended bodies.extended
      obtain ⟨old, kept⟩ :=
        restIh (bodies.closed_traces leaves traces) (extended.segments ▸ elsewhere)
      -- the path of the visit is covered, so that neither it nor what is inside is the entry's
      have outside : ¬ Covers (joined (before.enter segment).trail.segments) entry.1 := by
        rw [enter_segments]
        exact fun covers => elsewhere ((covers_within segment _).trans covers)
      obtain ⟨oldInside, keptInside⟩ := bodyIh (traces.enter segment) outside
      rw [recorded_enter] at oldInside keptInside
      have differ : entry.1 ≠ joined (within segment before.trail.segments) := by
        rintro same
        exact elsewhere (same ▸ covers_within segment _)
      rw [bodies.recorded_closed leaves traces, mem_setSpan_of_ne differ] at old kept
      constructor
      · intro member
        have left_member := old member
        cases leaves with
        | all _ => exact oldInside left_member
        | marker _ recovered =>
            rw [recorded_recover recovered] at left_member
            exact oldInside (List.mem_filter.mp left_member).1
      · intro member early
        refine kept ?_ (Nat.lt_of_lt_of_le early (extended.size_le traces.compact))
        cases leaves with
        | all _ => exact keptInside member early
        | marker _ recovered =>
            rw [recorded_recover recovered]
            exact List.mem_filter.mpr ⟨keptInside member early, decide_eq_true early⟩

/-- A visit that is replaced keeps the spans elsewhere that start in front of it, and no others. -/
theorem recorded_of_replaced {thing : String} (bodies : Leads body (before.enter segment) inside)
    (fails : body.failure? = some (.notSupported thing))
    (recovered : recover? (before.mark segment) inside thing = some left) (traces : before.Traces)
    {entry : String × Span}
    (elsewhere : ¬ Covers (before.enter segment).trail.path entry.1) :
    entry ∈ (closed before left).recorded ↔
      entry ∈ before.recorded ∧ entry.2.offset < before.output.size := by
  obtain ⟨old, kept⟩ := bodies.recorded_elsewhere (traces.enter segment) elsewhere
  rw [recorded_enter] at old kept
  have differ : entry.1 ≠ joined (within segment before.trail.segments) := by
    rw [path_eq_joined, enter_segments] at elsewhere
    exact fun same => elsewhere (.inl same)
  rw [bodies.recorded_closed (.marker fails recovered) traces, mem_setSpan_of_ne differ,
    recorded_recover recovered, List.mem_filter, decide_eq_true_iff]
  constructor
  · rintro ⟨member, early⟩
    exact ⟨old member, early⟩
  · rintro ⟨member, early⟩
    exact ⟨kept member early, early⟩

end Writer

/-- When a part is replaced by its marker, the spans of paths that are neither its own nor inside of
it are kept if they start in front of it, and forgotten otherwise.  While a compact query is
written, the ones that are forgotten are those of parts without any text right in front of it. -/
theorem spans_elsewhere_kept_iff (before : Writer) (segment : String) (body : Script)
    {stopped : Writer} {thing : String} {spans : List (String × Span)}
    (compact : before.output.pretty = false) (tracked : before.trail.spans = some spans)
    (failed : Writer.run body (before.enter segment) = .stopped stopped (.notSupported thing)) :
    ∃ after kept, Writer.run (.enter segment body) before = .finished after ∧
      after.trail.spans = some kept ∧
      (∀ entry, ¬ Trail.Covers (before.enter segment).trail.path entry.1 →
        (entry ∈ kept ↔ entry ∈ spans ∧ entry.2.offset < before.output.size)) ∧
      ∀ dialect settings expr rest frames, settings.pretty = false →
        settings.trackPathSpans = true →
        Walk.Reaches (Walk.start dialect settings expr) ⟨.visit segment body rest, frames, before⟩ →
        ∀ entry ∈ spans, ¬ Trail.Covers (before.enter segment).trail.path entry.1 →
          (entry ∉ kept ↔ entry.2 = ⟨before.output.size, 0⟩) := by
  have traces : before.Traces := ⟨compact, by simp [tracked]⟩
  have ended := Writer.run_ends body (before.enter segment)
  rw [failed] at ended
  obtain ⟨fails, -, -⟩ := ended
  have bodies := (Writer.leads_of_run body (before.enter segment)).2 stopped thing failed
  obtain ⟨replaced, recovered, finished⟩ := Writer.run_enter_of_stopped compact failed
  obtain ⟨kept, kept_eq⟩ :=
    Option.isSome_iff_exists.mp (bodies.closed_traces (.marker fails recovered) traces).tracked
  have before_eq : before.recorded = spans := by simp [Writer.recorded, tracked]
  have kept_iff : ∀ entry, ¬ Trail.Covers (before.enter segment).trail.path entry.1 →
      (entry ∈ kept ↔ entry ∈ spans ∧ entry.2.offset < before.output.size) := by
    intro entry elsewhere
    have after_eq : (Writer.closed before replaced).recorded = kept := by
      simp [Writer.recorded, kept_eq]
    rw [← after_eq, ← before_eq]
    exact Writer.recorded_of_replaced bodies fails recovered traces elsewhere
  refine ⟨_, kept, finished, kept_eq, kept_iff, ?_⟩
  intro dialect settings expr rest frames compactSettings trackedSettings reached entry member
    elsewhere
  obtain ⟨recorded, sound⟩ :=
    (Walk.sound_start dialect expr compactSettings trackedSettings).reaches reached
  cases tracked.symm.trans sound.tracked
  have ends : entry.2.offset + entry.2.length ≤ before.output.size :=
    sound.laid.stop_le_size member
  obtain ⟨path, offset, length⟩ := entry
  simp only [kept_iff _ elsewhere, member, true_and, Span.mk.injEq] at ends ⊢
  omega

/-- A value of a user that is not supported. -/
def Expr.deletedElement : Expr :=
  .late .deleteIndex [.parameter ⟨"x", .named "User"⟩] .object

/-- An operand in front of one that is replaced keeps its span. -/
theorem spans_elsewhere_kept_iff_operand :
    ∃ before body rest frames stopped spans after kept,
      Walk.Reaches (Walk.start .aql { trackPathSpans := true }
        (.binary .add (.parameter ⟨"x", .named "User"⟩) .deletedElement .object))
        ⟨.visit "Right" body rest, frames, before⟩ ∧
      before.trail.spans = some spans ∧
      Writer.run body (before.enter "Right") =
        .stopped stopped (.notSupported "deleting an index") ∧
      Writer.run (.enter "Right" body) before = .finished after ∧
      after.trail.spans = some kept ∧ ("Left", ⟨0, 1⟩) ∈ spans ∧ ("Left", ⟨0, 1⟩) ∈ kept := by
  obtain ⟨before, body, rest, frames, stopped, spans, reached, compact, tracked, failed, path_eq,
      member⟩ : ∃ before body rest frames stopped spans,
      Walk.Reaches (Walk.start .aql { trackPathSpans := true }
        (.binary .add (.parameter ⟨"x", .named "User"⟩) .deletedElement .object))
        ⟨.visit "Right" body rest, frames, before⟩ ∧
      before.output.pretty = false ∧ before.trail.spans = some spans ∧
      Writer.run body (before.enter "Right") =
        .stopped stopped (.notSupported "deleting an index") ∧
      (before.enter "Right").trail.path = "Right" ∧
      ("Left", (⟨0, 1⟩ : Span)) ∈ spans :=
    ⟨_, _, _, _, _, _, .head (.begin ..) <| .head (.begin ..) <| .head (.take ..) <|
      .head (.finish _ _ rfl) <| .head (.take ..) .refl, rfl, rfl, rfl, rfl, by decide⟩
  obtain ⟨after, kept, finished, kept_eq, -, lost_iff⟩ :=
    spans_elsewhere_kept_iff before "Right" body compact tracked failed
  have elsewhere : ¬ Trail.Covers (before.enter "Right").trail.path "Left" := by
    rw [path_eq]
    exact Trail.not_covers_of_head (by decide) (by decide)
  refine ⟨before, body, rest, frames, stopped, spans, after, kept, reached, tracked, failed,
    finished, kept_eq, member, ?_⟩
  refine Decidable.byContradiction fun lost => ?_
  have empty := (lost_iff _ _ _ _ _ rfl rfl reached _ member elsewhere).mp lost
  cases congrArg Span.length empty

/-- The parameter of a function writes nothing, so its span is forgotten when the body of the
function is replaced. -/
theorem parameter_span_forgotten :
    ∃ before body rest frames stopped after spans kept,
      Walk.Reaches (Walk.start .aql { trackPathSpans := true }
        (.lambda [⟨"x", .named "User"⟩] .deletedElement .object))
        ⟨.visit "Body" body rest, frames, before⟩ ∧
      before.output.pretty = false ∧ before.trail.spans = some spans ∧
      Writer.run body (before.enter "Body") =
        .stopped stopped (.notSupported "deleting an index") ∧
      Writer.run (.enter "Body" body) before = .finished after ∧
      after.trail.spans = some kept ∧
      ¬ Trail.Covers (before.enter "Body").trail.path "Parameters[0]" ∧
      ("Parameters[0]", ⟨0, 0⟩) ∈ spans ∧ "Parameters[0]" ∉ kept.map Prod.fst := by
  refine ⟨_, _, _, _, _, _, _, _, .head (.begin ..) <| .head (.begin ..) <| .head (.take ..) <|
    .head (.finish _ _ rfl) .refl, rfl, rfl, rfl, rfl, rfl, ?_, by decide, by decide⟩
  exact Trail.not_covers_of_head (by decide) (by decide)

end AqlPipeline
