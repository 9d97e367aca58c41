import AqlPipeline.Expr.Build
import AqlPipeline.Proofs.Query.Compile
import AqlPipeline.Proofs.Trail.Layout

/-!
# Path spans of compact queries

Along a walk that writes compact text, the spans recorded so far are laid out in the text, and none
of them crosses the start of a visit that has begun.  So cutting a visit back takes away exactly the
text of the spans that are forgotten with it, and the text of any other span stays.  Putting numbers
of rows into the limit and the head in front of the body keeps the layout.
-/

namespace AqlPipeline

namespace Writer

@[simp] theorem enter_spans (writer : Writer) (segment : String) :
    (writer.enter segment).trail.spans = writer.trail.spans := by
  simp only [enter, Trail.push]
  split <;> rfl

theorem leave_finished {mark : Mark} {writer after : Writer}
    (finished : leave mark writer = .finished after) :
    after.output = writer.output ∧
      after.trail.spans =
        (writer.trail.record ⟨mark.size, writer.output.size - mark.size⟩).spans := by
  have left := leave_left mark writer
  rw [finished] at left
  cases left with
  | finished trail _ recorded => exact ⟨rfl, recorded⟩

end Writer

namespace Walk

/-- The span of a path, as far as it is recorded. -/
def spanAt? (walk : Walk) (path : String) : Option Span :=
  walk.writer.trail.spans.bind (findSpan? path)

/-- The text of a span. -/
def textOf? (walk : Walk) (span : Span) : Option String :=
  Text.slice? walk.writer.output.text span.offset span.length

/-- Any number of steps of a walk, during which a path has the same span. -/
def Keeps (path : String) (span : Span) : Walk → Walk → Prop :=
  Relation.ReflTransGen fun walk next => Step walk next ∧ next.spanAt? path = some span

/-! ## The layout along a walk -/

/-- A walk that writes compact text and has recorded some spans. -/
structure Sound (walk : Walk) (spans : List (String × Span)) : Prop where
  /-- The text is compact. -/
  compact : walk.writer.output.pretty = false
  /-- The spans are those recorded. -/
  tracked : walk.writer.trail.spans = some spans
  /-- They are laid out in the text. -/
  laid : Laid walk.writer.output.text spans
  /-- The text can be cut back to the start of each visit. -/
  cuts : ∀ frame ∈ walk.frames, Text.CutAt walk.writer.output.text frame.mark.size
  /-- An inner visit does not start before an outer one. -/
  ordered : walk.frames.Pairwise fun inner outer => outer.mark.size ≤ inner.mark.size
  /-- No span crosses the start of a visit. -/
  clear : ∀ frame ∈ walk.frames, ∀ entry ∈ spans,
    entry.2.stop ≤ frame.mark.size ∨ frame.mark.size ≤ entry.2.offset

/-- The texts of the spans that are still recorded have not changed. -/
def Agrees (walk next : Walk) (spans : List (String × Span)) : Prop :=
  ∀ entry ∈ spans, ∀ part, walk.textOf? entry.2 = some part → next.textOf? entry.2 = some part

namespace Sound

variable {spans : List (String × Span)}

theorem take {first : AqlPipeline.Step} {rest : Script} {frames : List Frame} {writer : Writer}
    (sound : Sound ⟨.step first rest, frames, writer⟩ spans) :
    Sound ⟨rest, frames, writer.apply first⟩ spans ∧
      Agrees ⟨.step first rest, frames, writer⟩ ⟨rest, frames, writer.apply first⟩ spans := by
  have extended := Writer.extends_apply writer first
  obtain ⟨more, text_eq⟩ := extended.text sound.compact
  constructor
  · exact
      { compact := extended.pretty.trans sound.compact
        tracked := (congrArg Trail.spans (Writer.apply_trail writer first)).trans sound.tracked
        laid := text_eq ▸ sound.laid.append more
        cuts := fun frame member => text_eq ▸ (sound.cuts frame member).append more
        ordered := sound.ordered
        clear := sound.clear }
  · intro entry _ part sliced
    rw [textOf?, text_eq]
    exact Text.slice?_append sliced more

theorem begin {segment : String} {body rest : Script} {frames : List Frame} {writer : Writer}
    (sound : Sound ⟨.visit segment body rest, frames, writer⟩ spans) :
    Sound ⟨body, ⟨writer.mark segment, rest⟩ :: frames, writer.enter segment⟩ spans where
  compact := sound.compact
  tracked := (Writer.enter_spans writer segment).trans sound.tracked
  laid := sound.laid
  cuts frame member := by
    rcases List.mem_cons.mp member with rfl | outer
    · exact Text.cutAt_size writer.output.text
    · exact sound.cuts frame outer
  ordered :=
    List.pairwise_cons.mpr ⟨fun frame outer => (sound.cuts frame outer).le_size, sound.ordered⟩
  clear frame member entry recorded := by
    rcases List.mem_cons.mp member with rfl | outer
    · exact .inl (sound.laid.stop_le_size recorded)
    · exact sound.clear frame outer entry recorded

theorem replace {thing : String} {frame : Frame} {frames : List Frame} {writer replaced : Writer}
    (sound : Sound ⟨.fail (.notSupported thing), frame :: frames, writer⟩ spans)
    (recovered : Writer.recover? frame.mark writer thing = some replaced) :
    ∃ kept, Sound ⟨.done, frame :: frames, replaced⟩ kept ∧
      Agrees ⟨.fail (.notSupported thing), frame :: frames, writer⟩
        ⟨.done, frame :: frames, replaced⟩ kept := by
  let early : String × Span → Bool := fun entry => entry.2.offset < frame.mark.size
  obtain ⟨front, back, text_split, front_size⟩ := sound.cuts frame List.mem_cons_self
  obtain rfl := Option.some.inj
    ((Writer.recover?_of_size text_split front_size thing).symm.trans recovered)
  have text_eq : (Writer.withMarker frame.mark writer { writer.output with text := front }
      thing).output.text = front ++ Writer.marker (Writer.oneLine thing) := rfl
  have ends : ∀ entry ∈ spans, early entry → entry.2.stop ≤ front.utf8ByteSize := by
    intro entry member starts
    rw [front_size]
    rcases sound.clear frame List.mem_cons_self entry member with ended | behind
    · exact ended
    · exact absurd (of_decide_eq_true starts) (Nat.not_lt.mpr behind)
  have laid : Laid (front ++ back) spans := text_split ▸ sound.laid
  refine ⟨spans.filter early, ?_, ?_⟩
  · exact
      { compact := sound.compact
        tracked := by
          change writer.trail.spans.map _ = _
          rw [sound.tracked]
          rfl
        laid := text_eq ▸ (laid.cutBack early ends).append _
        cuts := by
          intro other member
          have starts : other.mark.size ≤ front.utf8ByteSize := by
            rw [front_size]
            rcases List.mem_cons.mp member with rfl | outer
            · exact Nat.le_refl _
            · exact (List.pairwise_cons.mp sound.ordered).1 other outer
          have cut : Text.CutAt (front ++ back) other.mark.size :=
            text_split ▸ sound.cuts other member
          exact text_eq ▸ (cut.of_append starts).append _
        ordered := sound.ordered
        clear := fun other member entry recorded =>
          sound.clear other member entry (List.mem_filter.mp recorded).1 }
  · intro entry member part sliced
    obtain ⟨recorded, starts⟩ := List.mem_filter.mp member
    rw [textOf?, text_split] at sliced
    rw [textOf?, text_eq]
    exact Text.slice?_append (Text.slice?_of_append sliced (ends entry recorded starts)) _

theorem finish {frame : Frame} {frames : List Frame} {writer after : Writer}
    (sound : Sound ⟨.done, frame :: frames, writer⟩ spans)
    (left : Writer.leave frame.mark writer = .finished after) :
    Sound ⟨frame.rest, frames, after⟩ (setSpan writer.trail.path
      ⟨frame.mark.size, writer.output.size - frame.mark.size⟩ spans) := by
  obtain ⟨output_eq, spans_eq⟩ := Writer.leave_finished left
  obtain ⟨front, back, text_split, front_size⟩ := sound.cuts frame List.mem_cons_self
  have size_eq : writer.output.size = front.utf8ByteSize + back.utf8ByteSize := by
    rw [Output.size, text_split, String.utf8ByteSize_append]
  have length_eq : writer.output.size - frame.mark.size = back.utf8ByteSize := by omega
  obtain ⟨inner, ordered⟩ := List.pairwise_cons.mp sound.ordered
  exact
    { compact := output_eq ▸ sound.compact
      tracked := by
        rw [spans_eq, Trail.record, Trail.mapSpans, sound.tracked]
        rfl
      laid := by
        change Laid after.output.text _
        rw [output_eq]
        apply sound.laid.set
        · rw [text_split, length_eq, ← front_size]
          exact ⟨back, Text.slice?_behind front back⟩
        · intro entry recorded
          have ends : entry.2.stop ≤ writer.output.size := sound.laid.stop_le_size recorded
          rcases sound.clear frame List.mem_cons_self entry recorded with ended | behind
          · exact .inr (.inr (.inl ended))
          · refine .inl ⟨behind, ?_⟩
            change entry.2.stop ≤ frame.mark.size + (writer.output.size - frame.mark.size)
            omega
      cuts := fun other outer => output_eq ▸ sound.cuts other (List.mem_cons_of_mem _ outer)
      ordered := ordered
      clear := by
        intro other outer entry recorded
        rcases mem_setSpan recorded with rfl | old
        · exact .inr (inner other outer)
        · exact sound.clear other (List.mem_cons_of_mem _ outer) entry old }

/-- A step keeps the layout, and the texts of the spans that stay. -/
theorem step {walk next : Walk} (sound : Sound walk spans) (step : Step walk next) :
    ∃ kept, Sound next kept ∧ Agrees walk next kept := by
  cases step with
  | take first rest frames writer => exact ⟨spans, sound.take⟩
  | begin segment body rest frames writer =>
      exact ⟨spans, sound.begin, fun _ _ _ sliced => sliced⟩
  | replace frame frames recovered => exact sound.replace recovered
  | finish frame frames left =>
      refine ⟨_, sound.finish left, fun entry _ part sliced => ?_⟩
      rw [textOf?, (Writer.leave_finished left).1]
      exact sliced

theorem reaches {walk later : Walk} (sound : Sound walk spans) (reached : Reaches walk later) :
    ∃ kept, Sound later kept := by
  induction reached with
  | refl => exact ⟨spans, sound⟩
  | tail _ step ih =>
      obtain ⟨recorded, sound⟩ := ih
      obtain ⟨kept, kept_sound, -⟩ := sound.step step
      exact ⟨kept, kept_sound⟩

theorem mem_of_spanAt? {walk : Walk} (sound : Sound walk spans) {path : String} {span : Span}
    (found : walk.spanAt? path = some span) : (path, span) ∈ spans := by
  rw [spanAt?, sound.tracked] at found
  exact mem_of_findSpan? found

/-- As long as a path has the same span, the text of that span does not change. -/
theorem textOf?_of_keeps {walk later : Walk} (sound : Sound walk spans) {path part : String}
    {span : Span} (sliced : walk.textOf? span = some part) (keeps : Keeps path span walk later) :
    later.textOf? span = some part := by
  have followed : ∃ kept, Sound later kept ∧ later.textOf? span = some part := by
    induction keeps with
    | refl => exact ⟨spans, sound, sliced⟩
    | tail _ next ih =>
        obtain ⟨recorded, sound, sliced⟩ := ih
        obtain ⟨kept, kept_sound, agrees⟩ := sound.step next.1
        exact ⟨kept, kept_sound, agrees _ (kept_sound.mem_of_spanAt? next.2) part sliced⟩
  obtain ⟨_, _, same⟩ := followed
  exact same

/-- A visit that has been left has recorded the span of what it has written. -/
theorem spanAt?_of_visit {segment : String} {body rest : Script} {frames : List Frame}
    {before after : Writer} {kept : List (String × Span)}
    (began : Sound ⟨.visit segment body rest, frames, before⟩ spans)
    (ended : Sound ⟨rest, frames, after⟩ kept)
    (finished : Writer.run (.enter segment body) before = .finished after) :
    ∃ written, after.output.text = before.output.text ++ written ∧
      spanAt? ⟨rest, frames, after⟩ (before.enter segment).trail.path =
        some ⟨before.output.size, written.utf8ByteSize⟩ ∧
      textOf? ⟨rest, frames, after⟩ ⟨before.output.size, written.utf8ByteSize⟩ = some written := by
  obtain ⟨inside, rfl, balanced, extended⟩ := Writer.run_enter_finished finished
  obtain ⟨written, text_eq⟩ := extended.text began.compact
  have length_eq : inside.output.size - before.output.size = written.utf8ByteSize := by
    change inside.output.text = before.output.text ++ written at text_eq
    simp [Output.size, text_eq, String.utf8ByteSize_append]
  have path_eq : inside.trail.path = (before.enter segment).trail.path :=
    congrArg Trail.joined balanced
  refine ⟨written, text_eq, ?_, ?_⟩
  · have recorded := ended.tracked
    change inside.trail.spans.map (setSpan inside.trail.path _) = some kept at recorded
    obtain ⟨earlier, -, set_eq⟩ := Option.map_eq_some_iff.mp recorded
    rw [spanAt?, ended.tracked, ← set_eq, path_eq, length_eq]
    exact findSpan?_setSpan ..
  · change Text.slice? (Writer.closed before inside).output.text _ _ = _
    rw [text_eq]
    exact Text.slice?_behind ..

end Sound

end Walk

/-! ## Finishing a query -/

namespace Writer

/-- Whether spans are recorded and laid out in the text. -/
def IsLaid (writer : Writer) : Prop :=
  ∃ spans, writer.trail.spans = some spans ∧ Laid writer.output.text spans

/-- An insertion takes the text apart, and puts the new text and the shift of the spans there. -/
theorem insertBehind?_eq_some {writer patched : Writer} {token inserted : String} {place : Nat}
    (found : writer.insertBehind? token inserted = some (place, patched)) :
    ∃ before after, writer.output.text = before ++ after ∧ before.utf8ByteSize = place ∧
      patched =
        { writer with
          output := { writer.output with text := before ++ inserted ++ after }
          trail := writer.trail.shift before.utf8ByteSize inserted.utf8ByteSize } := by
  obtain ⟨⟨offset, output⟩, behind, pair_eq⟩ := Option.map_eq_some_iff.mp found
  cases pair_eq
  obtain ⟨⟨before, after⟩, split, output_eq⟩ := Option.map_eq_some_iff.mp behind
  cases output_eq
  refine ⟨String.ofList before, String.ofList after, ?_, ?_, ?_⟩
  · apply String.toList_inj.mp
    simpa using Text.eq_append_of_splitBehind? split
  · simp [Text.utf8ByteSize_eq]
  · simp [Text.utf8ByteSize_eq, String.append_assoc]

theorem IsLaid.patchSkip {writer : Writer} (laid : writer.IsLaid) (count : Int) :
    (writer.patchSkip count).IsLaid := by
  unfold Writer.patchSkip
  split
  · rename_i found
    obtain ⟨before, after, text_eq, -, rfl⟩ := insertBehind?_eq_some found
    obtain ⟨spans, tracked, laid⟩ := laid
    rw [text_eq] at laid
    refine ⟨_, ?_, laid.insert (toString count ++ ", ")⟩
    change writer.trail.spans.map _ = _
    rw [tracked]
    rfl
  · exact laid

theorem IsLaid.patchSkips {writer : Writer} (laid : writer.IsLaid) : writer.patchSkips.IsLaid := by
  have patched : ∀ (counts : List Int) (writer : Writer), writer.IsLaid →
      (counts.foldl Writer.patchSkip writer).IsLaid := by
    intro counts
    induction counts with
    | nil => exact fun _ laid => laid
    | cons count counts ih => exact fun writer laid => ih _ (laid.patchSkip count)
  exact patched writer.skips writer laid

/-- The spans of a finished query are laid out between its head and the end of its body. -/
theorem IsLaid.finish {writer : Writer} (laid : writer.IsLaid) :
    ∃ spans, writer.finish.spans = some spans ∧
      Laid (writer.patchSkips.header ++ writer.patchSkips.output.text) spans ∧
      ∀ entry ∈ spans, writer.patchSkips.header.utf8ByteSize ≤ entry.2.offset := by
  obtain ⟨spans, tracked, patched⟩ := laid.patchSkips
  have body_eq : writer.patchSkips.output.text = "" ++ writer.patchSkips.output.text := by simp
  rw [body_eq] at patched
  have shifted := patched.insert writer.patchSkips.header
  rw [String.empty_append] at shifted
  refine ⟨_, ?_, shifted, ?_⟩
  · change writer.patchSkips.trail.spans.map _ = _
    rw [tracked]
    rfl
  · intro entry member
    obtain ⟨old, -, rfl⟩ := List.mem_map.mp member
    simp [Span.shift]

end Writer

/-! ## Compiled queries -/

theorem Walk.sound_start (dialect : Dialect) {settings : Settings} (expr : Expr)
    (compact : settings.pretty = false) (tracked : settings.trackPathSpans = true) :
    (Walk.start dialect settings expr).Sound [] where
  compact := compact
  tracked := by
    change (Trail.start settings.trackPathSpans).spans = some []
    rw [tracked]
    rfl
  laid := Laid.nil _
  cuts := List.forall_mem_nil _
  ordered := List.Pairwise.nil
  clear := List.forall_mem_nil _

/-- The spans of a compact query lie between its head and the end of its body, can be cut out of its
text, and do not cross.  While the query is written, the text of the span that a visit has recorded
is the text that the visit has written, for as long as the span is recorded. -/
theorem path_spans_accurate {dialect : Dialect} {settings : Settings} {expr : Expr} {query : Query}
    (compact : settings.pretty = false) (tracked : settings.trackPathSpans = true)
    (compiled : Query.compile dialect settings expr = .ok query) :
    (∃ writer spans, Walk.Reaches (Walk.start dialect settings expr) ⟨.done, [], writer⟩ ∧
      query.text = writer.patchSkips.header ++ writer.patchSkips.output.text ++
        writer.patchSkips.footer ∧
      query.spans = some spans ∧
      (∀ path span, (path, span) ∈ spans →
        writer.patchSkips.header.utf8ByteSize ≤ span.offset ∧
        span.stop ≤ (writer.patchSkips.header ++ writer.patchSkips.output.text).utf8ByteSize ∧
        ∃ part, Text.slice? query.text span.offset span.length = some part ∧
          query.textAt? path = some part) ∧
      ∀ first ∈ spans, ∀ second ∈ spans, first.2.Nests second.2) ∧
    ∀ segment body rest frames before after,
      Walk.Reaches (Walk.start dialect settings expr)
        ⟨.visit segment body rest, frames, before⟩ →
      Writer.run (.enter segment body) before = .finished after →
      Walk.Reaches ⟨.visit segment body rest, frames, before⟩ ⟨rest, frames, after⟩ ∧
      ∃ span written, after.output.text = before.output.text ++ written ∧
        Walk.spanAt? ⟨rest, frames, after⟩ (before.enter segment).trail.path = some span ∧
        ∀ later,
          Walk.Keeps (before.enter segment).trail.path span ⟨rest, frames, after⟩ later →
          later.textOf? span = some written := by
  have sound := Walk.sound_start dialect expr compact tracked
  constructor
  · obtain ⟨writer, finished, rfl⟩ := Query.run_of_compile compiled
    have reached : Walk.Reaches (Walk.start dialect settings expr) ⟨.done, [], writer⟩ :=
      (Walk.reaches_of_run _ [] _).1 writer finished
    obtain ⟨recorded, ended⟩ := sound.reaches reached
    have laid : writer.IsLaid := ⟨recorded, ended.tracked, ended.laid⟩
    obtain ⟨spans, spans_eq, placed, behind⟩ := laid.finish
    refine ⟨writer, spans, reached, rfl, spans_eq, ?_, placed.nests⟩
    intro path span member
    obtain ⟨part, sliced⟩ := (placed.append writer.patchSkips.footer).sliced _ member
    refine ⟨behind _ member, placed.stop_le_size member, part, sliced, ?_⟩
    have found := findSpan?_of_mem placed.distinct member
    simp only [Query.textAt?, spans_eq, Option.bind_eq_bind, Option.bind_some, found]
    exact sliced
  · intro segment body rest frames before after reached finished
    have passed := Walk.reaches_of_visit finished rest frames
    refine ⟨passed, ?_⟩
    obtain ⟨recorded, began⟩ := sound.reaches reached
    obtain ⟨kept, ended⟩ := began.reaches passed
    obtain ⟨written, text_eq, found, sliced⟩ := began.spanAt?_of_visit ended finished
    exact ⟨_, written, text_eq, found, fun later keeps => ended.textOf?_of_keeps sliced keeps⟩

/-- Rows left out and a limit behind a collection whose name is not ASCII. -/
theorem path_spans_accurate_limit :
    ∃ query spans writer span,
      Query.compile .aql { collection := some "übersicht", trackPathSpans := true }
        (.countStage "Take" (.countStage "Skip" (.source (.named "User")) 5) 10) = .ok query ∧
      query.spans = some spans ∧
      (∀ entry ∈ spans, (query.textAt? entry.1).isSome) ∧
      (∀ first ∈ spans, ∀ second ∈ spans, first.2.Nests second.2) ∧
      Walk.spanAt? ⟨.done, [], writer⟩ "" = some span ∧
      Walk.textOf? ⟨.done, [], writer⟩ span = some writer.output.text := by
  obtain ⟨query, compiled⟩ :
      ∃ query, Query.compile .aql { collection := some "übersicht", trackPathSpans := true }
        (.countStage "Take" (.countStage "Skip" (.source (.named "User")) 5) 10) = .ok query :=
    ⟨_, rfl⟩
  obtain ⟨⟨_, spans, -, -, spans_eq, sliced, nests⟩, visited⟩ :=
    path_spans_accurate rfl rfl compiled
  obtain ⟨writer, finished, -⟩ := Query.run_of_compile compiled
  obtain ⟨-, span, written, text_eq, found, kept⟩ :=
    visited "" _ .done [] _ writer .refl finished
  refine ⟨query, spans, writer, span, compiled, spans_eq, ?_, nests, found, ?_⟩
  · intro entry member
    obtain ⟨-, -, part, -, part_eq⟩ := sliced entry.1 entry.2 member
    rw [part_eq]
    rfl
  · rw [kept _ .refl, text_eq]
    exact congrArg some (String.empty_append).symm

end AqlPipeline
