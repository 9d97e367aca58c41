import AqlPipeline.Proofs.Script.Visited
import AqlPipeline.Proofs.Trail.Layout

/-!
# Markers in the text

A part that is not supported is cut out, with the spans of all that is inside of it, and its marker
is written and recorded in its place.  What follows leaves both alone, unless it visits the same
path again, and then it does the same there once more.
-/

namespace AqlPipeline

/-! ## Tables of spans -/

theorem findSpan?_setSpan_of_ne {path other : String} (differ : other ≠ path) (span : Span)
    (spans : List (String × Span)) :
    findSpan? other (setSpan path span spans) = findSpan? other spans := by
  induction spans with
  | nil => simp [setSpan, findSpan?, differ.symm]
  | cons head spans ih =>
      obtain ⟨own, old⟩ := head
      rw [setSpan]
      split
      · rename_i same
        subst same
        simp [findSpan?, differ.symm]
      · rw [findSpan?, findSpan?, ih]

theorem findSpan?_filter {path : String} {span : Span} {spans : List (String × Span)}
    {test : String × Span → Bool} (found : findSpan? path spans = some span)
    (passes : test (path, span)) : findSpan? path (spans.filter test) = some span := by
  induction spans with
  | nil => cases found
  | cons head spans ih =>
      obtain ⟨own, old⟩ := head
      rw [findSpan?] at found
      split at found
      · rename_i same
        cases found
        subst same
        simp [passes, findSpan?]
      · rename_i differ
        rw [List.filter_cons]
        split
        · rw [findSpan?, if_neg differ, ih found]
        · exact ih found

theorem findSpan?_eq_none_iff {path : String} {spans : List (String × Span)} :
    findSpan? path spans = none ↔ path ∉ spans.map Prod.fst := by
  induction spans with
  | nil => simp [findSpan?]
  | cons head spans ih =>
      obtain ⟨own, old⟩ := head
      rw [findSpan?]
      split
      · rename_i same
        simp [same]
      · rename_i differ
        simp [ih, Ne.symm differ]

namespace Writer

open Trail

/-! ## Where a run leads -/

/-- What a visit leaves at its end: all that it has come to, or its marker. -/
inductive Leaves (mark : Mark) (body : Script) (inside : Writer) : Writer → Prop where
  | all (ends : body.failure? = none) : Leaves mark body inside inside
  | marker {thing : String} {replaced : Writer}
      (fails : body.failure? = some (.notSupported thing))
      (recovered : recover? mark inside thing = some replaced) : Leaves mark body inside replaced

/-- A run that comes to the end of its script, or to something that is not supported. -/
inductive Leads : Script → Writer → Writer → Prop where
  | done (writer : Writer) : Leads .done writer writer
  | fail (thing : String) (writer : Writer) : Leads (.fail (.notSupported thing)) writer writer
  | step {first : Step} {rest : Script} {before after : Writer}
      (rests : Leads rest (before.apply first) after) : Leads (.step first rest) before after
  | visit {segment : String} {body rest : Script} {before inside left after : Writer}
      (bodies : Leads body (before.enter segment) inside)
      (leaves : Leaves (before.mark segment) body inside left)
      (rests : Leads rest (closed before left) after) :
      Leads (.visit segment body rest) before after

variable {segment : String} {script body rest : Script} {before inside left after : Writer}

/-- A visit only adds, whatever it leaves. -/
theorem Leaves.extended (leaves : Leaves (before.mark segment) body inside left)
    (inner : Extends (before.enter segment) inside) : Extends before (closed before left) := by
  cases leaves with
  | all _ => exact closed_extends inner
  | marker _ recovered => exact recover_extends inner recovered

theorem Leads.extended (leads : Leads script before after) : Extends before after := by
  induction leads with
  | done writer => exact .refl writer
  | fail _ writer => exact .refl writer
  | step _ ih => exact (extends_apply _ _).trans ih
  | visit _ leaves _ bodyIh restIh => exact (leaves.extended bodyIh).trans restIh

/-- A run that ends without a fatal error leads where it ends. -/
theorem leads_of_run (script : Script) (before : Writer) :
    (∀ after, run script before = .finished after → Leads script before after) ∧
      ∀ after thing, run script before = .stopped after (.notSupported thing) →
        Leads script before after := by
  induction script generalizing before with
  | done =>
      constructor
      · rintro after ⟨⟩
        exact .done _
      · rintro after thing ⟨⟩
  | fail error =>
      constructor
      · rintro after ⟨⟩
      · rintro after thing ⟨⟩
        exact .fail thing _
  | step first rest ih =>
      exact ⟨fun after ran => .step ((ih _).1 after ran),
        fun after thing ran => .step ((ih _).2 after thing ran)⟩
  | visit segment body rest bodyIh restIh =>
      obtain ⟨finishes, stops⟩ := bodyIh (before.enter segment)
      have ended := run_ends body (before.enter segment)
      rw [run_visit]
      cases closed_eq : close (before.mark segment) (run body (before.enter segment)) with
      | finished middle =>
          obtain ⟨inside, left, bodies, leaves, rfl⟩ : ∃ inside left,
              Leads body (before.enter segment) inside ∧
              Leaves (before.mark segment) body inside left ∧ middle = closed before left := by
            rcases close_eq_finished closed_eq with
              ⟨inside, ran, left⟩ | ⟨inside, thing, replaced, ran, recovered, left⟩
            · rw [ran] at ended
              obtain ⟨ends, extended, -⟩ := ended
              exact ⟨inside, inside, finishes _ ran, .all ends,
                eq_closed_of_leave extended.segments left⟩
            · rw [ran] at ended
              obtain ⟨fails, extended, -⟩ := ended
              have balanced := (recover?_segments recovered).trans extended.segments
              exact ⟨inside, replaced, stops _ _ ran, .marker fails recovered,
                eq_closed_of_leave balanced left⟩
          exact ⟨fun after rests => .visit bodies leaves ((restIh _).1 after rests),
            fun after thing rests => .visit bodies leaves ((restIh _).2 after thing rests)⟩
      | stopped middle error =>
          constructor
          · rintro after ⟨⟩
          · rintro after thing ⟨⟩
            exact (close_ne_notSupported _ _ _ _ closed_eq).elim
      | crashed middle =>
          constructor
          · rintro after ⟨⟩
          · rintro after thing ⟨⟩

theorem Leaves.skips_eq (leaves : Leaves (before.mark segment) body inside left)
    (inner : Extends (before.enter segment) inside) (same : inside.skips = before.skips) :
    (closed before left).skips = before.skips := by
  change left.skips = before.skips
  cases leaves with
  | all _ => exact same
  | marker _ recovered => exact recover_skips inner recovered

/-- A script that is not to leave out rows leaves out none. -/
theorem Leads.skips_eq (leads : Leads script before after)
    (orderly : Script.Orderly False script) : after.skips = before.skips := by
  induction leads with
  | done writer => rfl
  | fail _ writer => rfl
  | @step first rest before after _ ih =>
      obtain ⟨allowed, rests⟩ := orderly.of_step
      rw [ih rests]
      cases first with
      | skip count => exact absurd rfl allowed
      | _ => rfl
  | visit bodies leaves _ bodyIh restIh =>
      rw [restIh orderly.of_visit]
      exact leaves.skips_eq bodies.extended (bodyIh (orderly.visited_orderly List.mem_cons_self))

theorem Leads.enter_skips_eq (leads : Leads (.enter segment body) before after)
    (orderly : Script.Orderly False body) : after.skips = before.skips := by
  obtain _ | _ | _ | ⟨bodies, leaves, ⟨⟩⟩ := leads
  exact leaves.skips_eq bodies.extended (bodies.skips_eq orderly)

/-! ## Recorded spans -/

/-- The spans that have been recorded. -/
def recorded (writer : Writer) : List (String × Span) :=
  writer.trail.spans.getD []

/-- Whether the text is compact and spans are recorded. -/
structure Traces (writer : Writer) : Prop where
  compact : writer.output.pretty = false
  tracked : writer.trail.spans.isSome

theorem recorded_apply (writer : Writer) (step : Step) :
    (writer.apply step).recorded = writer.recorded := by
  cases step <;> rfl

theorem recorded_enter (writer : Writer) (segment : String) :
    (writer.enter segment).recorded = writer.recorded := by
  simp only [recorded, enter, Trail.push]
  split <;> rfl

theorem recorded_recover {mark : Mark} {writer replaced : Writer} {thing : String}
    (recovered : recover? mark writer thing = some replaced) :
    replaced.recorded = writer.recorded.filter (fun entry => entry.2.offset < mark.size) := by
  obtain ⟨kept, -, rfl⟩ := recover?_eq_some recovered
  unfold recorded
  cases spans_eq : writer.trail.spans with
  | none => simp [withMarker, Trail.discardFrom, Trail.mapSpans, spans_eq]
  | some spans => simp [withMarker, Trail.discardFrom, Trail.mapSpans, spans_eq]

theorem Traces.apply (traces : before.Traces) (step : Step) : (before.apply step).Traces := by
  refine ⟨(extends_apply before step).pretty.trans traces.compact, ?_⟩
  cases step <;> exact traces.tracked

theorem Traces.enter (traces : before.Traces) (segment : String) :
    (before.enter segment).Traces := by
  refine ⟨traces.compact, ?_⟩
  simp only [Writer.enter, Trail.push]
  split <;> exact traces.tracked

theorem Traces.closed (traces : inside.Traces) (before : Writer) :
    (Writer.closed before inside).Traces :=
  ⟨traces.compact, by simp [Writer.closed, Trail.record, Trail.mapSpans, traces.tracked]⟩

theorem Traces.leaves {mark : Mark} (traces : inside.Traces)
    (leaves : Leaves mark body inside left) : left.Traces := by
  cases leaves with
  | all _ => exact traces
  | marker _ recovered =>
      refine ⟨(recover?_pretty recovered).trans traces.compact, ?_⟩
      obtain ⟨kept, -, rfl⟩ := recover?_eq_some recovered
      simp [withMarker, Trail.discardFrom, Trail.mapSpans, traces.tracked]

namespace Leads

theorem traces (leads : Leads script before after) (traces : before.Traces) : after.Traces := by
  induction leads with
  | done writer => exact traces
  | fail _ writer => exact traces
  | step _ ih => exact ih (traces.apply _)
  | visit _ leaves _ bodyIh restIh =>
      exact restIh (((bodyIh (traces.enter _)).leaves leaves).closed _)

/-- A visit records the text that it leaves. -/
theorem recorded_closed (bodies : Leads body (before.enter segment) inside)
    (leaves : Leaves (before.mark segment) body inside left) (traces : before.Traces) :
    (closed before left).recorded = setSpan (joined (within segment before.trail.segments))
      ⟨before.output.size, left.output.size - before.output.size⟩ left.recorded := by
  have left_traces := (bodies.traces (traces.enter segment)).leaves leaves
  obtain ⟨spans, spans_eq⟩ := Option.isSome_iff_exists.mp left_traces.tracked
  have balanced : left.trail.segments = within segment before.trail.segments := by
    rw [← enter_segments, ← bodies.extended.segments]
    cases leaves with
    | all _ => rfl
    | marker _ recovered => exact recover?_segments recovered
  rw [← balanced]
  simp [recorded, closed, Trail.record, Trail.mapSpans, spans_eq, path_eq_joined]

theorem closed_traces (bodies : Leads body (before.enter segment) inside)
    (leaves : Leaves (before.mark segment) body inside left) (traces : before.Traces) :
    (closed before left).Traces :=
  ((bodies.traces (traces.enter segment)).leaves leaves).closed before

/-- The spans that are recorded during a run start behind the text from before it. -/
theorem offset_of_recorded (leads : Leads script before after) (traces : before.Traces) :
    ∀ entry ∈ after.recorded, entry ∈ before.recorded ∨ before.output.size ≤ entry.2.offset := by
  induction leads with
  | done writer => exact fun _ => .inl
  | fail _ writer => exact fun _ => .inl
  | @step first rest before after rests ih =>
      intro entry member
      rcases ih (traces.apply first) entry member with old | behind
      · exact .inl (recorded_apply before first ▸ old)
      · exact .inr (Nat.le_trans ((extends_apply before first).size_le traces.compact) behind)
  | @visit segment body rest before inside left after bodies leaves rests bodyIh restIh =>
      intro entry member
      rcases restIh (bodies.closed_traces leaves traces) entry member with old | behind
      · rw [bodies.recorded_closed leaves traces] at old
        rcases mem_setSpan old with rfl | inner
        · exact .inr (Nat.le_refl _)
        · rw [← recorded_enter before segment]
          refine bodyIh (traces.enter segment) entry ?_
          cases leaves with
          | all _ => exact inner
          | marker _ recovered =>
              rw [recorded_recover recovered] at inner
              exact (List.mem_filter.mp inner).1
      · exact .inr (Nat.le_trans ((leaves.extended bodies.extended).size_le traces.compact) behind)

/-- A path that is not visited keeps its span, if that starts in the text from before. -/
theorem findSpan?_of_not_visits (leads : Leads script before after) (traces : before.Traces)
    {path : String} {span : Span} (unvisited : ¬ script.Visits before.trail.segments path)
    (found : findSpan? path before.recorded = some span)
    (early : span.offset < before.output.size) : findSpan? path after.recorded = some span := by
  induction leads with
  | done writer => exact found
  | fail _ writer => exact found
  | @step first rest before after rests ih =>
      have extended := extends_apply before first
      refine ih (traces.apply first) ?_ ?_ (Nat.lt_of_lt_of_le early (extended.size_le traces.compact))
      · rw [extended.segments]
        exact fun visits => unvisited (visits.mono fun _ member => member)
      · rwa [recorded_apply]
  | @visit segment body rest before inside left after bodies leaves rests bodyIh restIh =>
      have extended := leaves.extended bodies.extended
      refine restIh (bodies.closed_traces leaves traces) ?_ ?_
        (Nat.lt_of_lt_of_le early (extended.size_le traces.compact))
      · rw [extended.segments]
        exact fun visits => unvisited (visits.mono fun _ member => List.mem_cons_of_mem _ member)
      · have other : path ≠ joined (within segment before.trail.segments) := by
          rintro rfl
          exact unvisited (.own List.mem_cons_self)
        have kept : findSpan? path inside.recorded = some span := by
          refine bodyIh (traces.enter segment) ?_ ?_ early
          · rw [enter_segments]
            exact fun visits => unvisited (.inner List.mem_cons_self visits)
          · rwa [recorded_enter]
        rw [bodies.recorded_closed leaves traces, findSpan?_setSpan_of_ne other]
        cases leaves with
        | all _ => exact kept
        | marker _ recovered =>
            rw [recorded_recover recovered]
            exact findSpan?_filter kept (decide_eq_true early)

/-- A path that is not shown has no span, unless it had one before. -/
theorem not_recorded_of_not_shows (leads : Leads script before after) (traces : before.Traces)
    {path : String} (hidden : ¬ script.Shows before.trail.segments path)
    (absent : path ∉ before.recorded.map Prod.fst) : path ∉ after.recorded.map Prod.fst := by
  induction leads with
  | done writer => exact absent
  | fail _ writer => exact absent
  | @step first rest before after rests ih =>
      refine ih (traces.apply first) ?_ ?_
      · rw [(extends_apply before first).segments]
        exact fun shows => hidden (shows.mono fun _ member => member)
      · rwa [recorded_apply]
  | @visit segment body rest before inside left after bodies leaves rests bodyIh restIh =>
      refine restIh (bodies.closed_traces leaves traces) ?_ ?_
      · rw [(leaves.extended bodies.extended).segments]
        exact fun shows => hidden (shows.mono fun _ member => List.mem_cons_of_mem _ member)
      · rw [bodies.recorded_closed leaves traces]
        intro recorded
        rcases mem_paths_setSpan recorded with rfl | inner
        · exact hidden (.own List.mem_cons_self)
        cases leaves with
        | all ends =>
            refine bodyIh (traces.enter segment) ?_ (by rwa [recorded_enter]) inner
            rw [enter_segments]
            exact fun shows =>
              hidden (.inner List.mem_cons_self (Script.not_isReplaced ends) shows)
        | marker fails recovered =>
            -- what is recorded inside starts behind the cut
            obtain ⟨entry, member, rfl⟩ := List.mem_map.mp inner
            rw [recorded_recover recovered] at member
            obtain ⟨member, early⟩ := List.mem_filter.mp member
            rcases bodies.offset_of_recorded (traces.enter segment) entry member with old | behind
            · rw [recorded_enter] at old
              exact absent (List.mem_map_of_mem old)
            · exact absurd (of_decide_eq_true early) (Nat.not_lt.mpr behind)

end Leads

/-! ## Markers -/

/-- Whether the text at the path of a gap is its marker. -/
def Marks (writer : Writer) (gap : Gap) : Prop :=
  ∃ span, findSpan? gap.path writer.recorded = some span ∧
    Text.slice? writer.output.text span.offset span.length = some (marker gap.message)

theorem marker_size_pos (message : String) : 0 < (marker message).utf8ByteSize := by
  apply Nat.pos_of_ne_zero
  intro empty
  have named : marker message ≠ "" := by
    unfold marker
    simp
  exact named (String.utf8ByteSize_eq_zero_iff.mp empty)

/-- A marker starts in the text. -/
theorem offset_lt_of_marker {text message : String} {span : Span}
    (sliced : Text.slice? text span.offset span.length = some (marker message)) :
    span.offset < text.utf8ByteSize := by
  obtain ⟨front, back, rfl, offset_eq, length_eq⟩ := Text.slice?_eq_some_iff.mp sliced
  have positive := marker_size_pos message
  rw [String.utf8ByteSize_append, String.utf8ByteSize_append]
  omega

namespace Leads

variable {gap : Gap}

/-- A visit that is replaced leaves its marker. -/
theorem marks_own {thing : String} (bodies : Leads body (before.enter segment) inside)
    (fails : body.failure? = some (.notSupported thing))
    (recovered : recover? (before.mark segment) inside thing = some left)
    (traces : before.Traces) :
    (closed before left).Marks
      ⟨joined (within segment before.trail.segments), oneLine thing⟩ := by
  have text_eq := recover_text bodies.extended traces.compact recovered
  have length_eq : left.output.size - before.output.size =
      (marker (oneLine thing)).utf8ByteSize := by
    simp [Output.size, text_eq]
  refine ⟨⟨before.output.size, (marker (oneLine thing)).utf8ByteSize⟩, ?_, ?_⟩
  · rw [bodies.recorded_closed (.marker fails recovered) traces, length_eq]
    exact findSpan?_setSpan ..
  · change Text.slice? left.output.text _ _ = _
    rw [text_eq]
    exact Text.slice?_behind ..

/-- A marker inside of a visit stays when the visit is left. -/
theorem marks_inner (bodies : Leads body (before.enter segment) inside)
    (ends : body.failure? = none) (traces : before.Traces) (marks : inside.Marks gap)
    (other : gap.path ≠ joined (within segment before.trail.segments)) :
    (closed before inside).Marks gap := by
  obtain ⟨span, found, sliced⟩ := marks
  refine ⟨span, ?_, sliced⟩
  rw [bodies.recorded_closed (.all ends) traces, findSpan?_setSpan_of_ne other, found]

/-- A marker stays in the text, and keeps its span unless its path is visited again. -/
theorem marks_of_not_visits (leads : Leads script before after) (traces : before.Traces)
    (unvisited : ¬ script.Visits before.trail.segments gap.path) (marks : before.Marks gap) :
    after.Marks gap := by
  obtain ⟨span, found, sliced⟩ := marks
  obtain ⟨more, text_eq⟩ := leads.extended.text traces.compact
  have kept := leads.findSpan?_of_not_visits traces unvisited found (offset_lt_of_marker sliced)
  refine ⟨span, kept, ?_⟩
  rw [text_eq]
  exact Text.slice?_append sliced more

/-- The gaps that are kept have their markers in the text. -/
theorem marks (leads : Leads script before after) {skips : Prop}
    (orderly : script.Orderly skips) (traces : before.Traces)
    (keeps : script.Keeps before.trail.segments gap) : after.Marks gap := by
  induction leads with
  | done writer => cases keeps <;> contradiction
  | fail _ writer => cases keeps <;> contradiction
  | @step first rest before after rests ih =>
      refine ih orderly.of_step.2 (traces.apply first) ?_
      rw [(extends_apply before first).segments]
      exact keeps.mono fun _ member => member
  | @visit segment body rest before inside left after bodies leaves rests bodyIh restIh =>
      have segments_eq := (leaves.extended bodies.extended).segments
      have left_traces := bodies.closed_traces leaves traces
      have visited : (segment, body) ∈ (Script.visit segment body rest).visited :=
        List.mem_cons_self
      by_cases again : rest.Keeps before.trail.segments gap
      · exact restIh orderly.of_visit left_traces (segments_eq ▸ again)
      -- the gap is one of this visit, and the visit is not made again
      have own : (segment, body) ∉ rest.visited ∧ (closed before left).Marks gap ∧
          Covers (joined (within segment before.trail.segments)) gap.path := by
        cases keeps with
        | own member fails =>
            rcases List.mem_cons.mp member with same | later
            · cases same
              refine ⟨fun later => again (.own later fails), ?_, .inl rfl⟩
              cases leaves with
              | all ends => exact absurd ⟨_, fails⟩ (Script.not_isReplaced ends)
              | marker fails' recovered =>
                  cases fails.symm.trans fails'
                  exact bodies.marks_own fails recovered traces
            · exact absurd (.own later fails) again
        | inner member stays inner =>
            rcases List.mem_cons.mp member with same | later
            · cases same
              have bodies_orderly := orderly.visited_orderly visited
              have encloses := bodies_orderly.encloses inner.shows.visits
              refine ⟨fun later => again (.inner later stays inner), ?_, .inr encloses⟩
              cases leaves with
              | all ends =>
                  rw [← enter_segments] at inner
                  exact bodies.marks_inner ends traces
                    (bodyIh bodies_orderly (traces.enter segment) inner)
                    fun same => Encloses.irrefl _ (same ▸ encloses)
              | marker fails _ => exact absurd ⟨_, fails⟩ stays
            · exact absurd (.inner later stays inner) again
      obtain ⟨single, marked, covers⟩ := own
      refine rests.marks_of_not_visits left_traces ?_ marked
      rw [segments_eq]
      intro visits
      obtain ⟨other, inner, member, other_covers⟩ := orderly.of_visit.exists_covers visits
      obtain ⟨rfl, rfl⟩ :=
        orderly.unique visited (List.mem_cons_of_mem _ member) covers other_covers
      exact single member

end Leads

/-! ## All gaps of a visit -/

/-- Whether a gap that none of some gaps is around has its marker in the text, and any other one is
not recorded and inside of one that has. -/
def Accounts (writer : Writer) (gaps : List Gap) (gap : Gap) : Prop :=
  ((∀ outer ∈ gaps, ¬ Encloses outer.path gap.path) ∧ writer.Marks gap) ∨
    gap.path ∉ writer.recorded.map Prod.fst ∧
      ∃ outer ∈ gaps, Encloses outer.path gap.path ∧ writer.Marks outer

namespace Leads

variable {gap : Gap} {skips : Prop}

/-- A visit that comes to its end accounts for the gaps inside of it. -/
theorem accounts_of_ends (bodies : Leads body (before.enter segment) inside)
    (ends : body.failure? = none) (orderly : body.Orderly skips) (traces : before.Traces)
    (fresh : before.recorded = [])
    (member : gap ∈ body.gaps (within segment before.trail.segments)) :
    (closed before inside).Accounts (body.gaps (within segment before.trail.segments)) gap := by
  have segments_eq := enter_segments before segment
  have marked {gap : Gap} (kept : body.Keeps (within segment before.trail.segments) gap) :
      (closed before inside).Marks gap := by
    refine bodies.marks_inner ends traces
      (bodies.marks orderly (traces.enter segment) (segments_eq ▸ kept)) fun same => ?_
    exact Encloses.irrefl _ (same ▸ orderly.encloses kept.shows.visits)
  rcases orderly.keeps_or_encloses member with kept | ⟨outer, kept, encloses⟩
  · exact .inl ⟨fun outer around => orderly.not_encloses_shown kept.shows around, marked kept⟩
  · refine .inr ⟨?_, outer, kept.mem_gaps, encloses, marked kept⟩
    rw [bodies.recorded_closed (.all ends) traces]
    intro recorded
    rcases mem_paths_setSpan recorded with own | inner
    · exact Encloses.irrefl _ (own ▸ orderly.encloses_gap member)
    · refine bodies.not_recorded_of_not_shows (traces.enter segment) ?_ ?_ inner
      · rw [segments_eq]
        exact fun shows => orderly.not_encloses_shown shows kept.mem_gaps encloses
      · simp [recorded_enter, fresh]

/-- A visit that is replaced leaves no span but its own. -/
theorem not_recorded_of_replaced {thing path : String}
    (bodies : Leads body (before.enter segment) inside)
    (fails : body.failure? = some (.notSupported thing))
    (recovered : recover? (before.mark segment) inside thing = some left)
    (traces : before.Traces) (fresh : before.recorded = [])
    (other : path ≠ joined (within segment before.trail.segments)) :
    path ∉ (closed before left).recorded.map Prod.fst := by
  rw [bodies.recorded_closed (.marker fails recovered) traces, recorded_recover recovered]
  intro recorded
  rcases mem_paths_setSpan recorded with own | inner
  · exact other own
  · obtain ⟨entry, found, -⟩ := List.mem_map.mp inner
    obtain ⟨found, early⟩ := List.mem_filter.mp found
    rcases bodies.offset_of_recorded (traces.enter segment) entry found with old | behind
    · simp [recorded_enter, fresh] at old
    · exact absurd (of_decide_eq_true early) (Nat.not_lt.mpr behind)

/-- A visit that is replaced accounts for its own gap and for those inside of it. -/
theorem accounts_of_replaced {thing : String} (bodies : Leads body (before.enter segment) inside)
    (fails : body.failure? = some (.notSupported thing))
    (recovered : recover? (before.mark segment) inside thing = some left)
    (orderly : body.Orderly skips) (traces : before.Traces) (fresh : before.recorded = [])
    {own : Gap}
    (own_eq : own = ⟨joined (within segment before.trail.segments), oneLine thing⟩)
    (member : gap ∈ body.gaps (within segment before.trail.segments) ++ [own]) :
    (closed before left).Accounts
      (body.gaps (within segment before.trail.segments) ++ [own]) gap := by
  have marked := bodies.marks_own fails recovered traces
  rw [← own_eq] at marked
  have encloses {gap : Gap} (inner : gap ∈ body.gaps (within segment before.trail.segments)) :
      Encloses own.path gap.path := own_eq ▸ orderly.encloses_gap inner
  rcases List.mem_append.mp member with inner | same
  · refine .inr ⟨?_, own, by simp, encloses inner, marked⟩
    refine bodies.not_recorded_of_replaced fails recovered traces fresh fun same => ?_
    have around := encloses inner
    rw [same, own_eq] at around
    exact Encloses.irrefl _ around
  · cases List.mem_singleton.mp same
    refine .inl ⟨fun outer around outers => ?_, marked⟩
    rcases List.mem_append.mp around with inner | same
    · exact Encloses.irrefl _ ((encloses inner).trans outers)
    · cases List.mem_singleton.mp same
      exact Encloses.irrefl _ outers

/-- A visit that starts without any spans accounts for all of its gaps. -/
theorem accounts (leads : Leads (.enter segment body) before after) (orderly : body.Orderly skips)
    (traces : before.Traces) (fresh : before.recorded = [])
    (member : gap ∈ (Script.enter segment body).gaps before.trail.segments) :
    after.Accounts ((Script.enter segment body).gaps before.trail.segments) gap := by
  have gaps_eq : (Script.enter segment body).gaps before.trail.segments =
      body.gaps (within segment before.trail.segments) ++
        Script.gapOf (within segment before.trail.segments) body.failure? :=
    List.append_nil _
  rw [gaps_eq] at member ⊢
  obtain _ | _ | _ | ⟨bodies, leaves, ⟨⟩⟩ := leads
  cases leaves with
  | all ends =>
      have gapless : Script.gapOf (within segment before.trail.segments) body.failure? = [] := by
        rw [ends]
        rfl
      rw [gapless, List.append_nil] at member ⊢
      exact bodies.accounts_of_ends ends orderly traces fresh member
  | marker fails recovered =>
      rw [fails] at member ⊢
      exact bodies.accounts_of_replaced fails recovered orderly traces fresh rfl member

end Leads

end Writer

end AqlPipeline
