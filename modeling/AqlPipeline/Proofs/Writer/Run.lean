import AqlPipeline.Proofs.Text.Cut
import AqlPipeline.Writer

/-!
# What a run leaves behind

Where a script stops, and which of its parts become gaps, is told by the script alone.  A run that
comes to its end, or stops at something not supported, is back at the position it started from and
has only added to the bind variables, the numbers of rows and, in compact text, to the text.  So
only a run in pretty text can crash.
-/

namespace AqlPipeline

/-! ## Control flow of a script -/

/-- The segments of the path inside of a visit. -/
def Trail.within (segment : String) (segments : List String) : List String :=
  if Text.isAllBlank segment then segments else segment :: segments

/-- A path, from its segments with the last one first. -/
def Trail.joined (segments : List String) : String :=
  ".".intercalate segments.reverse

/-- A position is given up without a change to the spans, or it is not the one last entered. -/
theorem Trail.pop_cases (trail : Trail) (segment : String) :
    (∃ popped, trail.pop segment = .ok popped ∧ popped.spans = trail.spans) ∨
      ∃ last, trail.pop segment = .error (.invalidPath segment last) := by
  unfold pop
  split
  · exact .inr ⟨_, rfl⟩
  · split
    · exact .inl ⟨_, rfl, rfl⟩
    · exact .inr ⟨_, rfl⟩

namespace Script

/-- The error that a run stops at, if it does: what is only not supported stops a visit, and not
what follows it. -/
def failure? : Script → Option Error
  | .done => none
  | .fail error => some error
  | .step _ rest => rest.failure?
  | .visit _ body rest =>
    match body.failure? with
    | none | some (.notSupported _) => rest.failure?
    | some error => some error

/-- The gap that a visit leaves, given the path inside of it and the error it stops at. -/
def gapOf (segments : List String) : Option Error → List Gap
  | some (.notSupported thing) => [⟨Trail.joined segments, Writer.oneLine thing⟩]
  | _ => []

/-- The gaps that a run from a path leaves, in order: those inside of a visit before its own. -/
def gaps (segments : List String) : Script → List Gap
  | .done | .fail _ => []
  | .step _ rest => rest.gaps segments
  | .visit segment body rest =>
    body.gaps (Trail.within segment segments) ++
      gapOf (Trail.within segment segments) body.failure? ++ rest.gaps segments

end Script

/-- The writer at the end of a run. -/
def Outcome.writer : Outcome → Writer
  | .finished writer => writer
  | .stopped writer _ => writer
  | .crashed writer => writer

/-- Goes on with what comes next, unless the run has stopped. -/
def Outcome.andThen (next : Writer → Outcome) : Outcome → Outcome
  | .finished writer => next writer
  | .stopped writer error => .stopped writer error
  | .crashed writer => .crashed writer

/-- Whether a run has crashed. -/
def Outcome.HasCrashed (outcome : Outcome) : Prop :=
  ∃ writer, outcome = .crashed writer

namespace Outcome.HasCrashed

variable {outcome : Outcome}

theorem close (crashed : outcome.HasCrashed) (mark : Writer.Mark) :
    (Writer.close mark outcome).HasCrashed := by
  obtain ⟨inside, rfl⟩ := crashed
  exact ⟨inside, rfl⟩

theorem andThen (crashed : outcome.HasCrashed) (next : Writer → Outcome) :
    (outcome.andThen next).HasCrashed := by
  obtain ⟨inside, rfl⟩ := crashed
  exact ⟨inside, rfl⟩

end Outcome.HasCrashed

namespace Writer

/-! ## Single steps -/

/-- What one writer has, another one still has. -/
structure Extends (before after : Writer) : Prop where
  /-- The position is the same. -/
  segments : after.trail.segments = before.trail.segments
  /-- So is the layout. -/
  pretty : after.output.pretty = before.output.pretty
  /-- Compact text has only been added to. -/
  text : before.output.pretty = false → ∃ more, after.output.text = before.output.text ++ more
  /-- Numbers of rows have only been added. -/
  skips : before.skips <+: after.skips
  /-- Bind variables have only been added. -/
  binds : before.binds.entries <+: after.binds.entries

theorem Extends.refl (writer : Writer) : Extends writer writer :=
  ⟨rfl, rfl, fun _ => ⟨"", by simp⟩, List.prefix_refl _, List.prefix_refl _⟩

theorem Extends.trans {first second third : Writer} (earlier : Extends first second)
    (later : Extends second third) : Extends first third where
  segments := later.segments.trans earlier.segments
  pretty := later.pretty.trans earlier.pretty
  text compact := by
    obtain ⟨more, second_eq⟩ := earlier.text compact
    obtain ⟨rest, third_eq⟩ := later.text (earlier.pretty.trans compact)
    exact ⟨more ++ rest, by rw [third_eq, second_eq, String.append_assoc]⟩
  skips := earlier.skips.trans later.skips
  binds := earlier.binds.trans later.binds

/-- A compact text does not become shorter. -/
theorem Extends.size_le {before after : Writer} (extended : Extends before after)
    (compact : before.output.pretty = false) : before.output.size ≤ after.output.size := by
  obtain ⟨more, text_eq⟩ := extended.text compact
  simp [Output.size, text_eq]

theorem extends_append (writer : Writer) (text : String) : Extends writer (writer.append text) :=
  ⟨rfl, rfl, fun _ => ⟨text, rfl⟩, List.prefix_refl _, List.prefix_refl _⟩

/-- A change to the text that does nothing to a compact one. -/
theorem extends_onOutput {writer : Writer} {change : Output → Output}
    (pretty : (change writer.output).pretty = writer.output.pretty)
    (text : writer.output.pretty = false →
      ∃ more, (change writer.output).text = writer.output.text ++ more) :
    Extends writer (writer.onOutput change) :=
  ⟨rfl, pretty, text, List.prefix_refl _, List.prefix_refl _⟩

theorem register_prefix (table : BindTable) (preferred : String) (value : Json) :
    table.entries <+: (table.register preferred value).2.entries := by
  unfold BindTable.register
  split
  · exact List.prefix_append _ _
  · exact List.prefix_append _ _

theorem registerNamed_prefix (table : BindTable) (name : String) (value : Json) :
    table.entries <+: (table.registerNamed name value).2.entries := by
  unfold BindTable.registerNamed
  split
  · split
    · exact List.prefix_refl _
    · exact register_prefix table name value
  · exact List.prefix_append _ _

/-- A step only adds. -/
theorem extends_apply (writer : Writer) (step : Step) : Extends writer (writer.apply step) := by
  cases step with
  | write text => exact extends_append writer text
  | delimit delimiter =>
      change Extends writer (writer.onOutput (·.delimit delimiter))
      apply extends_onOutput
      · simp only [Output.delimit, Output.breakLine, Output.append]
        split <;> simp_all
      · intro compact
        exact ⟨delimiter, by simp [Output.delimit, compact, Output.append]⟩
  | breakLine =>
      apply extends_onOutput
      · simp only [Output.breakLine, Output.append]
        split <;> rfl
      · intro compact
        exact ⟨"", by simp [Output.breakLine, compact]⟩
  | trim =>
      apply extends_onOutput
      · simp only [Output.trimEnd]
        split <;> rfl
      · intro compact
        exact ⟨"", by simp [Output.trimEnd, compact]⟩
  | indent => exact extends_onOutput rfl fun _ => ⟨"", by simp [Output.indent]⟩
  | dedent => exact extends_onOutput rfl fun _ => ⟨"", by simp [Output.dedent]⟩
  | bindLiteral value =>
      exact ⟨rfl, rfl, fun _ => ⟨_, rfl⟩, List.prefix_refl _, register_prefix ..⟩
  | bindNamed name value =>
      exact ⟨rfl, rfl, fun _ => ⟨_, rfl⟩, List.prefix_refl _, registerNamed_prefix ..⟩
  | declare parameter =>
      exact ⟨rfl, rfl, fun _ => ⟨"", by simp [apply]⟩, List.prefix_refl _, List.prefix_refl _⟩
  | project typeName =>
      exact ⟨rfl, rfl, fun _ => ⟨"", by simp [apply]⟩, List.prefix_refl _, List.prefix_refl _⟩
  | yieldIterator => exact extends_append writer _
  | skip count =>
      exact ⟨rfl, rfl, fun _ => ⟨"", by simp [apply]⟩, List.prefix_append _ _, List.prefix_refl _⟩

@[simp] theorem apply_trail (writer : Writer) (step : Step) :
    (writer.apply step).trail = writer.trail := by
  cases step <;> rfl

@[simp] theorem apply_gaps (writer : Writer) (step : Step) :
    (writer.apply step).gaps = writer.gaps := by
  cases step <;> rfl

/-! ## Visits -/

theorem path_eq_joined (trail : Trail) : trail.path = Trail.joined trail.segments := rfl

theorem enter_segments (writer : Writer) (segment : String) :
    (writer.enter segment).trail.segments = Trail.within segment writer.trail.segments := by
  simp only [enter, Trail.push, Trail.within]
  split <;> rfl

/-- The writer behind a visit that began at `before` and has come to `inside`. -/
def closed (before inside : Writer) : Writer :=
  let span : Span := ⟨before.output.size, inside.output.size - before.output.size⟩
  { inside with trail := ⟨before.trail.segments, (inside.trail.record span).spans⟩ }

/-- How a visit is left: with a crash if the text has become shorter than it was at the mark, and
with the span recorded otherwise, even if the position is not the one last entered. -/
inductive Left (mark : Mark) (writer : Writer) : Outcome → Prop
  | crashed (short : writer.output.size < mark.size) : Left mark writer (.crashed writer)
  | finished (trail : Trail) (kept : mark.size ≤ writer.output.size)
      (recorded : trail.spans =
        (writer.trail.record ⟨mark.size, writer.output.size - mark.size⟩).spans) :
      Left mark writer (.finished { writer with trail })
  | misplaced (trail : Trail) (expected last : String) :
      Left mark writer (.stopped { writer with trail } (.invalidPath expected last))

theorem leave_left (mark : Mark) (writer : Writer) : Left mark writer (leave mark writer) := by
  rw [leave]
  split
  · rename_i short
    exact .crashed short
  · rename_i kept
    dsimp only
    split
    · obtain ⟨popped, pop_eq, recorded⟩ | ⟨last, pop_eq⟩ := Trail.pop_cases
        (writer.trail.record ⟨mark.size, writer.output.size - mark.size⟩) mark.segment
      · rw [pop_eq]
        exact .finished popped (Nat.not_lt.mp kept) recorded
      · rw [pop_eq]
        exact .misplaced _ _ last
    · exact .finished _ (Nat.not_lt.mp kept) rfl

/-- Leaving a visit changes nothing but the trail, whether it is possible or not. -/
theorem leave_writer (mark : Mark) (writer : Writer) :
    ∃ trail, (leave mark writer).writer = { writer with trail } := by
  have left := leave_left mark writer
  generalize leave mark writer = outcome at left ⊢
  cases left <;> exact ⟨_, rfl⟩

/-- A visit that is left has not become shorter. -/
theorem size_le_of_leave {mark : Mark} {writer after : Writer}
    (finished : leave mark writer = .finished after) : mark.size ≤ after.output.size := by
  have left := leave_left mark writer
  rw [finished] at left
  cases left with
  | finished trail kept _ => exact kept

theorem leave_hasCrashed {mark : Mark} {writer : Writer}
    (crashed : (leave mark writer).HasCrashed) : writer.output.size < mark.size := by
  obtain ⟨after, crashed⟩ := crashed
  have left := leave_left mark writer
  rw [crashed] at left
  cases left with
  | crashed short => exact short

/-- A visit whose inside is back at its own position can be left, unless the text has become shorter
than it was where the visit began. -/
theorem leave_eq {before inside : Writer} {segment : String}
    (balanced : inside.trail.segments = (before.enter segment).trail.segments) :
    leave (before.mark segment) inside =
      if inside.output.size < before.output.size then .crashed inside
      else .finished (closed before inside) := by
  rw [enter_segments] at balanced
  rw [leave]
  change (if inside.output.size < before.output.size then _ else _) = _
  congr 1
  by_cases blank : Text.isAllBlank segment
  · simp only [mark, Trail.push, blank, if_true, Bool.false_eq_true, if_false]
    rw [Trail.within, if_pos blank] at balanced
    simp [closed, ← balanced, Trail.record, Trail.mapSpans]
  · rw [Trail.within, if_neg blank] at balanced
    simp [mark, Trail.push, blank, Trail.pop, Trail.record, Trail.mapSpans, balanced, closed]

theorem leave_eq_closed {before inside : Writer} {segment : String}
    (balanced : inside.trail.segments = (before.enter segment).trail.segments)
    (kept : before.output.size ≤ inside.output.size) :
    leave (before.mark segment) inside = .finished (closed before inside) := by
  rw [leave_eq balanced, if_neg (Nat.not_lt.mpr kept)]

theorem eq_closed_of_leave {before inside after : Writer} {segment : String}
    (balanced : inside.trail.segments = (before.enter segment).trail.segments)
    (left : leave (before.mark segment) inside = .finished after) :
    after = closed before inside := by
  rw [leave_eq balanced] at left
  split at left
  · cases left
  · cases left
    rfl

/-- Leaving a visit changes neither what has been written nor what has been learnt. -/
theorem closed_extends {before inside : Writer} {segment : String}
    (inner : Extends (before.enter segment) inside) : Extends before (closed before inside) :=
  ⟨rfl, inner.pretty, inner.text, inner.skips, inner.binds⟩

/-! ## Replaced visits -/

/-- Cutting a text back to one of its beginnings. -/
theorem truncate?_append {output : Output} {before more : String}
    (text_eq : output.text = before ++ more) :
    output.truncate? before.utf8ByteSize = some { output with text := before } := by
  unfold Output.truncate?
  split
  · rename_i short
    have empty : more = "" := by
      rw [← String.utf8ByteSize_eq_zero_iff]
      rw [Output.size, text_eq, String.utf8ByteSize_append] at short
      omega
    rw [empty, String.append_empty] at text_eq
    rw [← text_eq]
  · rw [text_eq, Text.utf8ByteSize_eq before, String.toList_append, Text.splitBytes?_append]
    simp

/-- What is cut back is kept up to the offset, or as a whole if it ends in front of it. -/
theorem text_of_truncate? {output kept : Output} {offset : Nat}
    (cut : output.truncate? offset = some kept) :
    kept = { output with text := kept.text } ∧
      ∃ more, output.text = kept.text ++ more ∧ (more = "" ∨ kept.size = offset) := by
  unfold Output.truncate? at cut
  split at cut
  · cases cut
    exact ⟨rfl, "", String.append_empty.symm, .inl rfl⟩
  · obtain ⟨⟨front, more⟩, split_eq, rfl⟩ := Option.map_eq_some_iff.mp cut
    obtain ⟨text_eq, size_eq⟩ := Text.eq_append_of_splitBytes? split_eq
    refine ⟨rfl, String.ofList more, ?_, .inr ?_⟩
    · rw [← String.ofList_append, ← text_eq, String.ofList_toList]
    · rw [Output.size, Text.utf8ByteSize_eq, String.toList_ofList, size_eq]

/-- A part is replaced if the text can be cut where it began, and then by a marker behind what is
kept. -/
theorem recover?_eq_some {mark : Mark} {inside replaced : Writer} {thing : String}
    (recovered : recover? mark inside thing = some replaced) :
    ∃ kept, inside.output.truncate? mark.size = some kept ∧
      replaced = withMarker mark inside kept thing := by
  obtain ⟨kept, cut, rfl⟩ := Option.map_eq_some_iff.mp recovered
  exact ⟨kept, cut, rfl⟩

theorem recover?_pretty {mark : Mark} {inside replaced : Writer} {thing : String}
    (recovered : recover? mark inside thing = some replaced) :
    replaced.output.pretty = inside.output.pretty := by
  obtain ⟨kept, cut, rfl⟩ := recover?_eq_some recovered
  change kept.pretty = _
  rw [(text_of_truncate? cut).1]

theorem recover?_segments {mark : Mark} {inside replaced : Writer} {thing : String}
    (recovered : recover? mark inside thing = some replaced) :
    replaced.trail.segments = inside.trail.segments := by
  obtain ⟨kept, -, rfl⟩ := recover?_eq_some recovered
  rfl

/-- A text is cut back to the beginning that it had at the mark. -/
theorem recover?_of_size {mark : Mark} {inside : Writer} {front more : String}
    (text_eq : inside.output.text = front ++ more) (size_eq : front.utf8ByteSize = mark.size)
    (thing : String) :
    recover? mark inside thing =
      some (withMarker mark inside { inside.output with text := front } thing) := by
  rw [recover?, ← size_eq, truncate?_append text_eq]
  rfl

/-- A compact text that has been added to since a visit began is cut back to what it was. -/
theorem recover?_eq {before inside : Writer} {segment : String}
    (inner : Extends (before.enter segment) inside) (compact : before.output.pretty = false)
    (thing : String) :
    recover? (before.mark segment) inside thing =
      some (withMarker (before.mark segment) inside
        { inside.output with text := before.output.text } thing) := by
  obtain ⟨more, text_eq⟩ := inner.text compact
  exact recover?_of_size text_eq rfl thing

theorem recover_text {before inside replaced : Writer} {segment thing : String}
    (inner : Extends (before.enter segment) inside) (compact : before.output.pretty = false)
    (recovered : recover? (before.mark segment) inside thing = some replaced) :
    replaced.output.text = before.output.text ++ marker (oneLine thing) := by
  rw [recover?_eq inner compact] at recovered
  cases recovered
  rfl

theorem recover_skips {before inside replaced : Writer} {segment thing : String}
    (inner : Extends (before.enter segment) inside)
    (recovered : recover? (before.mark segment) inside thing = some replaced) :
    replaced.skips = before.skips := by
  obtain ⟨kept, -, rfl⟩ := recover?_eq_some recovered
  exact (List.prefix_iff_eq_take.mp inner.skips).symm

theorem recover_extends {before inside replaced : Writer} {segment thing : String}
    (inner : Extends (before.enter segment) inside)
    (recovered : recover? (before.mark segment) inside thing = some replaced) :
    Extends before (closed before replaced) where
  segments := rfl
  pretty := (recover?_pretty recovered).trans inner.pretty
  text compact := by
    have text_eq := recover_text inner compact recovered
    exact ⟨marker (oneLine thing), text_eq⟩
  skips := ⟨[], (List.append_nil _).trans (recover_skips inner recovered).symm⟩
  binds := by
    obtain ⟨kept, -, rfl⟩ := recover?_eq_some recovered
    exact inner.binds

/-! ## Runs -/

/-- How a run of a script ends, as far as the script tells. -/
def Ends (script : Script) (before : Writer) : Outcome → Prop
  | .finished after =>
    script.failure? = none ∧ Extends before after ∧
      after.gaps = before.gaps ++ script.gaps before.trail.segments
  | .stopped after (.notSupported thing) =>
    script.failure? = some (.notSupported thing) ∧ Extends before after ∧
      after.gaps = before.gaps ++ script.gaps before.trail.segments
  | .stopped _ error => script.failure? = some error
  | .crashed _ => before.output.pretty = true

/-- What is left of a script ends as the whole script does. -/
theorem Ends.resume {script rest : Script} {before middle : Writer} {outcome : Outcome}
    {own : List Gap} (later : Ends rest middle outcome) (extended : Extends before middle)
    (failure_eq : script.failure? = rest.failure?) (middle_gaps : middle.gaps = before.gaps ++ own)
    (script_gaps : script.gaps before.trail.segments = own ++ rest.gaps before.trail.segments) :
    Ends script before outcome := by
  have all_gaps : ∀ after : Writer, after.gaps = middle.gaps ++ rest.gaps middle.trail.segments →
      after.gaps = before.gaps ++ script.gaps before.trail.segments := by
    intro after after_gaps
    rw [after_gaps, middle_gaps, extended.segments, script_gaps, List.append_assoc]
  cases outcome with
  | finished after =>
      obtain ⟨ended, added, after_gaps⟩ := later
      exact ⟨failure_eq.trans ended, extended.trans added, all_gaps after after_gaps⟩
  | stopped after error =>
      cases error with
      | notSupported thing =>
          obtain ⟨ended, added, after_gaps⟩ := later
          exact ⟨failure_eq.trans ended, extended.trans added, all_gaps after after_gaps⟩
      | _ => exact failure_eq.trans later
  | crashed after => exact extended.pretty.symm.trans later

/-- A visit that has only added is left, or crashes in pretty text. -/
theorem leave_cases {before inside : Writer} {segment : String}
    (balanced : inside.trail.segments = (before.enter segment).trail.segments)
    (extended : Extends before (closed before inside)) :
    leave (before.mark segment) inside = .finished (closed before inside) ∨
      leave (before.mark segment) inside = .crashed inside ∧ before.output.pretty = true := by
  rw [leave_eq balanced]
  by_cases short : inside.output.size < before.output.size
  · refine .inr ⟨if_pos short, Bool.of_not_eq_false fun compact => ?_⟩
    exact Nat.not_lt.mpr (extended.size_le compact) short
  · exact .inl (if_neg short)

/-- A visit never stops at what is not supported: that is replaced. -/
theorem close_ne_notSupported (mark : Mark) (outcome : Outcome) (after : Writer)
    (thing : String) : close mark outcome ≠ .stopped after (.notSupported thing) := by
  have left : ∀ writer, leave mark writer ≠ .stopped after (.notSupported thing) := by
    intro writer stopped
    have left := leave_left mark writer
    rw [stopped] at left
    cases left
  intro stopped
  unfold close at stopped
  split at stopped
  · exact left _ stopped
  · split at stopped
    · exact left _ stopped
    · cases stopped
  · rename_i supported
    cases stopped
    exact supported thing rfl
  · cases stopped

/-- A visit that can be closed is left behind its inside, or behind its marker. -/
theorem close_eq_finished {mark : Mark} {outcome : Outcome} {after : Writer}
    (closed : close mark outcome = .finished after) :
    (∃ inside, outcome = .finished inside ∧ leave mark inside = .finished after) ∨
      ∃ inside thing replaced, outcome = .stopped inside (.notSupported thing) ∧
        recover? mark inside thing = some replaced ∧
        leave mark replaced = .finished after := by
  unfold close at closed
  split at closed
  · exact .inl ⟨_, rfl, closed⟩
  · split at closed
    · rename_i recovered
      exact .inr ⟨_, _, _, rfl, recovered, closed⟩
    · cases closed
  · cases closed
  · cases closed

/-- A visit crashes with its inside, when it has less text in the end than it began with, or when the
text cannot be cut where it began. -/
theorem close_hasCrashed {mark : Mark} {outcome : Outcome}
    (crashed : (close mark outcome).HasCrashed) :
    outcome.HasCrashed ∨
      (∃ inside, outcome = .finished inside ∧ inside.output.size < mark.size) ∨
      (∃ inside thing, outcome = .stopped inside (.notSupported thing) ∧
        recover? mark inside thing = none) ∨
      ∃ inside thing replaced, outcome = .stopped inside (.notSupported thing) ∧
        recover? mark inside thing = some replaced ∧ replaced.output.size < mark.size := by
  unfold close at crashed
  split at crashed
  · exact .inr (.inl ⟨_, rfl, leave_hasCrashed crashed⟩)
  · split at crashed
    · rename_i recovered
      exact .inr (.inr (.inr ⟨_, _, _, rfl, recovered, leave_hasCrashed crashed⟩))
    · rename_i uncut
      exact .inr (.inr (.inl ⟨_, _, rfl, uncut⟩))
  · obtain ⟨_, ⟨⟩⟩ := crashed
  · exact .inl ⟨_, rfl⟩

/-- A visit whose inside ends as its script tells is left with the gaps of its inside and its own
one, unless it stops for good or crashes. -/
theorem Ends.close {body : Script} {before : Writer} {segment : String} {outcome : Outcome}
    (inner : Ends body (before.enter segment) outcome) :
    (∃ inside, close (before.mark segment) outcome = .finished (closed before inside) ∧
      inside.trail.segments = (before.enter segment).trail.segments ∧
      Extends before (closed before inside) ∧
      inside.gaps = before.gaps ++ (body.gaps (Trail.within segment before.trail.segments) ++
        Script.gapOf (Trail.within segment before.trail.segments) body.failure?) ∧
      ∀ rest, (Script.visit segment body rest).failure? = rest.failure?) ∨
    (∃ after error, close (before.mark segment) outcome = .stopped after error ∧
      error.isRecoverable = false ∧
      ∀ rest, (Script.visit segment body rest).failure? = some error) ∨
    ∃ after, close (before.mark segment) outcome = .crashed after ∧
      before.output.pretty = true := by
  cases outcome with
  | finished inside =>
      obtain ⟨body_ended, added, inside_gaps⟩ := inner
      rw [enter_segments] at inside_gaps
      rcases leave_cases added.segments (closed_extends added) with left | ⟨left, pretty⟩
      · refine .inl ⟨inside, left, added.segments, closed_extends added, ?_, fun rest => ?_⟩
        · rw [inside_gaps, body_ended]
          exact congrArg (before.gaps ++ ·) (List.append_nil _).symm
        · simp [Script.failure?, body_ended]
      · exact .inr (.inr ⟨inside, left, pretty⟩)
  | stopped inside error =>
      cases error with
      | notSupported thing =>
          obtain ⟨body_failed, added, inside_gaps⟩ := inner
          rw [enter_segments] at inside_gaps
          rw [Writer.close]
          cases recovered : recover? (before.mark segment) inside thing with
          | none =>
              refine .inr (.inr ⟨inside, rfl, Bool.of_not_eq_false fun compact => ?_⟩)
              rw [recover?_eq added compact] at recovered
              cases recovered
          | some replaced =>
              have extended := recover_extends added recovered
              have balanced := (recover?_segments recovered).trans added.segments
              rcases leave_cases balanced extended with left | ⟨left, pretty⟩
              · refine .inl ⟨replaced, left, balanced, extended, ?_, fun rest => ?_⟩
                · obtain ⟨kept, -, rfl⟩ := recover?_eq_some recovered
                  change inside.gaps ++ [⟨inside.trail.path, _⟩] = _
                  rw [inside_gaps, body_failed, path_eq_joined, added.segments, enter_segments,
                    List.append_assoc]
                  rfl
                · simp [Script.failure?, body_failed]
              · exact .inr (.inr ⟨replaced, left, pretty⟩)
      | _ =>
          simp only [Ends] at inner
          exact .inr (.inl ⟨inside, _, rfl, rfl, fun rest => by simp [Script.failure?, inner]⟩)
  | crashed inside => exact .inr (.inr ⟨inside, rfl, inner⟩)

/-- Every run ends as its script tells. -/
theorem run_ends (script : Script) (before : Writer) : Ends script before (run script before) := by
  induction script generalizing before with
  | done => exact ⟨rfl, .refl _, by simp [Script.gaps]⟩
  | fail error =>
      cases error with
      | notSupported thing => exact ⟨rfl, .refl _, by simp [Script.gaps]⟩
      | _ => rfl
  | step first rest ih =>
      exact (ih (before.apply first)).resume (extends_apply before first) rfl
        (by rw [apply_gaps, List.append_nil]) rfl
  | visit segment body rest bodyIh restIh =>
      rw [run]
      rcases (bodyIh (before.enter segment)).close with
        ⟨inside, closed_eq, -, extended, inside_gaps, failure_eq⟩ |
        ⟨after, error, closed_eq, fatal, failure_eq⟩ | ⟨after, closed_eq, pretty⟩
      · rw [closed_eq]
        exact (restIh (closed before inside)).resume extended (failure_eq rest) inside_gaps rfl
      · rw [closed_eq]
        cases error with
        | notSupported thing => cases fatal
        | _ => exact failure_eq rest
      · rw [closed_eq]
        exact pretty

/-- A run in compact text does not crash. -/
theorem not_hasCrashed {before : Writer} (compact : before.output.pretty = false)
    (script : Script) : ¬ (run script before).HasCrashed := by
  rintro ⟨after, crashed⟩
  have ended := run_ends script before
  rw [crashed] at ended
  exact Bool.false_ne_true (compact.symm.trans ended)

/-- A visit is run inside, closed, and followed by the rest. -/
theorem run_visit (segment : String) (body rest : Script) (writer : Writer) :
    run (.visit segment body rest) writer =
      (close (writer.mark segment) (run body (writer.enter segment))).andThen (run rest) := by
  rw [run]
  cases close (writer.mark segment) (run body (writer.enter segment)) <;> rfl

theorem run_enter (segment : String) (body : Script) (writer : Writer) :
    run (.enter segment body) writer =
      close (writer.mark segment) (run body (writer.enter segment)) := by
  rw [Script.enter, run_visit]
  cases close (writer.mark segment) (run body (writer.enter segment)) <;> rfl

theorem run_append (first second : Script) (writer : Writer) :
    run (first ++ second) writer = (run first writer).andThen (run second) := by
  induction first generalizing writer with
  | done => rfl
  | fail error => rfl
  | step first rest ih => exact ih (writer.apply first)
  | visit segment body rest _ ih =>
      change run (.visit segment body (rest ++ second)) writer = _
      rw [run_visit, run_visit]
      cases close (writer.mark segment) (run body (writer.enter segment)) with
      | finished middle => exact ih middle
      | stopped middle error => rfl
      | crashed middle => rfl

/-- A run that comes to its end comes to the end of each part. -/
theorem finished_of_append {first second : Script} {before after : Writer}
    (finished : run (first ++ second) before = .finished after) :
    ∃ middle, run first before = .finished middle ∧ run second middle = .finished after := by
  rw [run_append] at finished
  cases ran : run first before with
  | finished middle =>
      rw [ran] at finished
      exact ⟨middle, rfl, finished⟩
  | stopped middle error | crashed middle =>
      rw [ran] at finished
      cases finished

/-- In compact text, a visit whose inside is run to its end is left with that. -/
theorem run_enter_of_finished {segment : String} {body : Script} {before inside : Writer}
    (compact : before.output.pretty = false)
    (ran : run body (before.enter segment) = .finished inside) :
    run (.enter segment body) before = .finished (closed before inside) := by
  have ended := run_ends body (before.enter segment)
  rw [ran] at ended
  obtain ⟨-, added, -⟩ := ended
  rw [run_enter, ran, close, leave_eq_closed added.segments (added.size_le compact)]

/-- In compact text, a visit whose inside is not supported is left with its marker. -/
theorem run_enter_of_stopped {segment thing : String} {body : Script} {before inside : Writer}
    (compact : before.output.pretty = false)
    (ran : run body (before.enter segment) = .stopped inside (.notSupported thing)) :
    ∃ replaced, recover? (before.mark segment) inside thing = some replaced ∧
      run (.enter segment body) before = .finished (closed before replaced) := by
  have ended := run_ends body (before.enter segment)
  rw [ran] at ended
  obtain ⟨-, added, -⟩ := ended
  have recovered := recover?_eq added compact thing
  refine ⟨_, recovered, ?_⟩
  simp only [run_enter, ran, close, recovered]
  exact leave_eq_closed added.segments ((recover_extends added recovered).size_le compact)

theorem run_enter_size_le {segment : String} {body : Script} {before after : Writer}
    (finished : run (.enter segment body) before = .finished after) :
    before.output.size ≤ after.output.size := by
  rw [run_enter] at finished
  rcases close_eq_finished finished with ⟨_, -, left⟩ | ⟨_, _, _, -, -, left⟩
  · exact size_le_of_leave left
  · exact size_le_of_leave left

/-- A visit that a run comes to the end of leaves what it has added, and is back at its position. -/
theorem run_enter_finished {segment : String} {body : Script} {before after : Writer}
    (finished : run (.enter segment body) before = .finished after) :
    ∃ inside, after = closed before inside ∧
      inside.trail.segments = (before.enter segment).trail.segments ∧ Extends before after := by
  rw [Script.enter, run] at finished
  rcases (run_ends body (before.enter segment)).close with
    ⟨inside, closed_eq, balanced, extended, -⟩ | ⟨_, _, closed_eq, -⟩ | ⟨_, closed_eq, -⟩
  · rw [closed_eq] at finished
    cases finished
    exact ⟨inside, rfl, balanced, extended⟩
  · rw [closed_eq] at finished
    cases finished
  · rw [closed_eq] at finished
    cases finished

end Writer

end AqlPipeline
