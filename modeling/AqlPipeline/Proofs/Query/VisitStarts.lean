import AqlPipeline.Expr.Build
import AqlPipeline.Proofs.Expr.Tidy
import AqlPipeline.Proofs.Query.PathSpans
import AqlPipeline.Proofs.Writer.Layouts

/-!
# Starts of visits

What a visit is remembered by is the size of the text when it began.  As long as the text can be cut
there, its span has a length, and the visit can be cut out of the text.  In compact text that is
always so.  In pretty text, a lambda that is passed on drops spaces from before the visits that it
begins, and the line break makes up for them if a name in front of it does not end with too many.
-/

namespace AqlPipeline

namespace Walk

/-! ## Visits that have begun -/

/-- Whether the text has grown, but for spaces that blanks have replaced, from the text at the start
of the innermost visit, and so on for the visits around it. -/
def Held : List Frame → List Char → Prop
  | [], _ => True
  | frame :: frames, text =>
    ∃ before, Text.byteSize before = frame.mark.size ∧ Text.Reshaped before text ∧
      Held frames before

/-- Whether what follows the visits that have begun is tidy, given what is known behind the
innermost one. -/
def Continues : Room → List Frame → Prop
  | _, [] => True
  | room, frame :: frames => ∃ next, frame.rest.Tidy room next ∧ Continues next frames

theorem Held.after {frames : List Frame} {text later : List Char} (held : Held frames text)
    (reshaped : Text.Reshaped text later) : Held frames later := by
  cases frames with
  | nil => trivial
  | cons frame frames =>
      obtain ⟨before, size_eq, earlier, outer⟩ := held
      exact ⟨before, size_eq, earlier.trans reshaped, outer⟩

/-- The text can be cut at the start of the innermost visit. -/
theorem Held.cutAt {frame : Frame} {frames : List Frame} {text : String}
    (held : Held (frame :: frames) text.toList) : Text.CutAt text frame.mark.size := by
  obtain ⟨before, size_eq, reshaped, -⟩ := held
  obtain ⟨start, more, text_eq, start_size, -, -⟩ := reshaped.cut
  refine ⟨.ofList start, .ofList more, ?_, ?_⟩
  · rw [← String.ofList_append, ← text_eq, String.ofList_toList]
  · rw [Text.utf8ByteSize_eq, String.toList_ofList, start_size, size_eq]

/-! ## Steps -/

/-- A walk whose text has kept the starts of its visits, and goes on so if it is pretty. -/
structure Steady (walk : Walk) : Prop where
  /-- The starts of the visits are still there. -/
  held : Held walk.frames walk.writer.output.text.toList
  /-- What is left is tidy. -/
  tidy : walk.writer.output.pretty → ∃ room next, walk.script.Tidy room next ∧
    room.Holds walk.writer.output ∧ Continues next walk.frames

/-- A walk that is steady, or will be once it has broken the line behind spaces that it has
dropped. -/
inductive Settles : Walk → Prop
  | steady {walk : Walk} (steady : walk.Steady) : Settles walk
  /-- The spaces have been dropped. -/
  | trimmed {rest : Script} {frames : List Frame} {writer : Writer}
      (broken : Steady ⟨rest, frames, ((writer.apply .trim).apply .indent).apply .breakLine⟩) :
      Settles ⟨.step .indent (.step .breakLine rest), frames, writer.apply .trim⟩
  /-- The level has been raised. -/
  | indented {rest : Script} {frames : List Frame} {writer : Writer}
      (broken : Steady ⟨rest, frames, writer.apply .breakLine⟩) :
      Settles ⟨.step .breakLine rest, frames, writer⟩

namespace Steady

theorem take {first : AqlPipeline.Step} {rest : Script} {frames : List Frame} {writer : Writer}
    (steady : Steady ⟨.step first rest, frames, writer⟩) :
    Settles ⟨rest, frames, writer.apply first⟩ := by
  have layout_eq : (writer.apply first).output.pretty = writer.output.pretty :=
    (Writer.extends_apply writer first).pretty
  by_cases pretty : writer.output.pretty
  · obtain ⟨room, next, tidy, holds, continues⟩ := steady.tidy pretty
    cases tidy with
    | @step _ middle _ _ _ kept leads rests =>
        refine .steady ⟨steady.held.after (Writer.reshaped_apply writer kept), fun _ => ?_⟩
        exact ⟨middle, next, rests, leads writer pretty holds, continues⟩
    | @quote _ _ rest ready rests =>
        -- the line break to come makes up for what is dropped here
        refine .trimmed ⟨?_, fun _ => ?_⟩
        · exact steady.held.after (Writer.reshaped_quote pretty (ready _ holds))
        · refine ⟨.ready, next, rests, ?_, continues⟩
          have isPretty : writer.output.trimEnd.indent.pretty := layout_eq.trans pretty
          exact Script.Tidy.ready_breakLine isPretty
  · obtain ⟨more, text_eq⟩ :=
      (Writer.extends_apply writer first).text (Bool.eq_false_iff.mpr pretty)
    refine .steady ⟨?_, fun isPretty => absurd (layout_eq ▸ isPretty) pretty⟩
    refine steady.held.after ?_
    change Text.Reshaped _ (writer.apply first).output.text.toList
    rw [text_eq, String.toList_append]
    exact .append _ _

theorem begin {segment : String} {body rest : Script} {frames : List Frame} {writer : Writer}
    (steady : Steady ⟨.visit segment body rest, frames, writer⟩) :
    Steady ⟨body, ⟨writer.mark segment, rest⟩ :: frames, writer.enter segment⟩ where
  held := ⟨writer.output.text.toList, (Text.utf8ByteSize_eq _).symm, .refl _, steady.held⟩
  tidy pretty := by
    obtain ⟨room, next, tidy, holds, continues⟩ := steady.tidy pretty
    cases tidy with
    | @visit _ middle _ _ _ _ bodies rests =>
        exact ⟨room, middle, bodies, holds, next, rests, continues⟩

theorem replace {thing : String} {frame : Frame} {frames : List Frame} {writer replaced : Writer}
    (steady : Steady ⟨.fail (.notSupported thing), frame :: frames, writer⟩)
    (recovered : Writer.recover? frame.mark writer thing = some replaced) :
    Steady ⟨.done, frame :: frames, replaced⟩ := by
  obtain ⟨before, size_eq, reshaped, outer⟩ := steady.held
  obtain ⟨_, recovered', -, marked, tight⟩ := Writer.recover?_of_reshaped thing size_eq reshaped
  cases recovered.symm.trans recovered'
  refine ⟨⟨before, size_eq, marked, outer⟩, fun pretty => ?_⟩
  obtain ⟨-, next, -, -, continues⟩ :=
    steady.tidy ((Writer.recover?_pretty recovered).symm.trans pretty)
  exact ⟨next, next, .nothing, Room.holds_of_tight tight next, continues⟩

theorem finish {frame : Frame} {frames : List Frame} {writer after : Writer}
    (steady : Steady ⟨.done, frame :: frames, writer⟩)
    (left : Writer.leave frame.mark writer = .finished after) :
    Steady ⟨frame.rest, frames, after⟩ := by
  obtain ⟨output_eq, -⟩ := Writer.leave_finished left
  obtain ⟨before, -, reshaped, outer⟩ := steady.held
  refine ⟨?_, fun pretty => ?_⟩
  · change Held frames after.output.text.toList
    rw [output_eq]
    exact outer.after reshaped
  · change after.output.pretty at pretty
    rw [output_eq] at pretty
    obtain ⟨room, next, tidy, holds, last, rests, continues⟩ := steady.tidy pretty
    cases tidy with
    | done implies => exact ⟨next, last, rests, output_eq ▸ implies _ holds, continues⟩

end Steady

/-- A step of a walk that settles leads to one that settles. -/
theorem Settles.step {walk next : Walk} (settles : Settles walk) (step : Step walk next) :
    Settles next := by
  cases settles with
  | steady steady =>
      cases step with
      | take => exact steady.take
      | begin => exact .steady steady.begin
      | replace _ _ recovered => exact .steady (steady.replace recovered)
      | finish _ _ left => exact .steady (steady.finish left)
  | trimmed broken =>
      cases step with
      | take => exact .indented broken
  | indented broken =>
      cases step with
      | take => exact .steady broken

theorem Settles.reaches {walk later : Walk} (settles : Settles walk)
    (reached : Reaches walk later) : Settles later := by
  induction reached with
  | refl => exact settles
  | tail _ step ih => exact ih.step step

/-- The walk of an expression begins steadily. -/
theorem steady_start (dialect : Dialect) {settings : Settings} {expr : Expr}
    (narrow : settings.pretty = true → JumpNarrowly expr.nodes) :
    (start dialect settings expr).Steady where
  held := trivial
  tidy pretty := by
    refine ⟨.ready, .any, (expr.tidy (narrow pretty) {}).enter "", ?_, trivial⟩
    exact Nat.zero_le _

/-- The text can be cut at the start of a visit when what the visit does is at its end. -/
theorem Settles.cutAt {script : Script} {frame : Frame} {frames : List Frame} {writer : Writer}
    (settles : Settles ⟨script, frame :: frames, writer⟩)
    (ended : script = .done ∨ ∃ error, script = .fail error) :
    Text.CutAt writer.output.text frame.mark.size := by
  cases settles with
  | steady steady => exact steady.held.cutAt
  | trimmed broken | indented broken => simp at ended

/-- A walk that settles can go on. -/
theorem Settles.not_crashes {walk : Walk} (settles : Settles walk) : ¬ walk.Crashes := by
  intro crashes
  cases crashes with
  | short short => exact absurd (settles.cutAt (.inl rfl)).le_size (Nat.not_le.mpr short)
  | uncut uncut =>
      obtain ⟨front, back, text_eq, size_eq⟩ := settles.cutAt (.inr ⟨_, rfl⟩)
      rw [Writer.recover?_of_size text_eq size_eq] at uncut
      cases uncut

theorem Settles.not_hasCrashed {script : Script} {frames : List Frame} {writer : Writer}
    (settles : Settles ⟨script, frames, writer⟩) : ¬ (Writer.run script writer).HasCrashed := by
  intro crashed
  obtain ⟨point, reached, crashes⟩ := reaches_crash script frames writer crashed
  exact (settles.reaches reached).not_crashes crashes

/-- An expression is written without a crash if, in pretty text, names in front of the values of
jumps do not end with more than four spaces. -/
theorem not_hasCrashed (dialect : Dialect) {settings : Settings} {expr : Expr}
    (narrow : settings.pretty = true → JumpNarrowly expr.nodes) :
    ¬ (Writer.run (.enter "" (expr.script dialect {})) (.start settings)).HasCrashed :=
  (Settles.steady (steady_start dialect narrow)).not_hasCrashed

end Walk

theorem Query.compile_ne_crashed (dialect : Dialect) {settings : Settings} {expr : Expr}
    (narrow : settings.pretty = true → JumpNarrowly expr.nodes) :
    compile dialect settings expr ≠ .error .crashed :=
  fun crashed => Walk.not_hasCrashed dialect narrow (hasCrashed_of_compile crashed)

/-- Only pretty text crashes. -/
theorem Query.pretty_of_crashed {dialect : Dialect} {settings : Settings} {expr : Expr}
    (crashed : compile dialect settings expr = .error .crashed) : settings.pretty = true := by
  by_contra compact
  exact compile_ne_crashed dialect (fun pretty => absurd pretty compact) crashed

/-- Every visit that is made while a query is written ends with at least as much text as it began
with, and if it is cut out again, the text can be cut where the visit began; so neither a visit nor
the query crashes.  In pretty text, names in front of the values of jumps must not end with more
than four spaces. -/
theorem visits_keep_starts {dialect : Dialect} {settings : Settings} {expr : Expr}
    (narrow : settings.pretty = true → JumpNarrowly expr.nodes) :
    (∀ segment body rest frames before,
      Walk.Reaches (Walk.start dialect settings expr) ⟨.visit segment body rest, frames, before⟩ →
      (∀ inside, Writer.run body (before.enter segment) = .finished inside →
        before.output.size ≤ inside.output.size) ∧
      (∀ inside thing,
        Writer.run body (before.enter segment) = .stopped inside (.notSupported thing) →
        Text.CutAt inside.output.text before.output.size) ∧
      ¬ (Writer.run (.enter segment body) before).HasCrashed) ∧
    Query.compile dialect settings expr ≠ .error .crashed := by
  refine ⟨?_, Query.compile_ne_crashed dialect narrow⟩
  intro segment body rest frames before reached
  have settles := (Walk.Settles.steady (Walk.steady_start dialect narrow)).reaches reached
  have begun := settles.step (.begin segment body rest frames before)
  obtain ⟨finishes, stops⟩ :=
    Walk.reaches_of_run body (⟨before.mark segment, rest⟩ :: frames) (before.enter segment)
  refine ⟨?_, ?_, ?_⟩
  · intro inside finished
    exact ((begun.reaches (finishes inside finished)).cutAt (.inl rfl)).le_size
  · intro inside thing stopped
    exact (begun.reaches (stops inside thing stopped)).cutAt (.inr ⟨_, rfl⟩)
  · intro crashed
    obtain ⟨point, ended, crashes⟩ :=
      Walk.reaches_crash_inside (Walk.reaches_crash body _ (before.enter segment)) crashed
    exact (begun.reaches ended).not_crashes crashes

/-- A jump to a place, with a lambda that is passed on in front of a text that there is no AQL
for. -/
def Expr.jumpTo (place user : String) : Expr :=
  let passed : Parameter := ⟨user, .named "User"⟩
  let clock : Expr := .staticCall (.named "Clock") "Now" [] .string
  .goto .gotoTo (some ⟨some place⟩)
    (some (.binary .add (.quoted (.function [passed] (.parameter passed))) clock .string)) .void

/-- Four spaces at the end of the name, and the one behind it, are replaced by a line break of the
same size. -/
theorem visits_keep_starts_jumpTo :
    JumpNarrowly (Expr.jumpTo "L    " "x").nodes ∧
      (∃ segment body rest frames before inside thing,
        Walk.Reaches (Walk.start .aql { pretty := true } (.jumpTo "L    " "x"))
          ⟨.visit segment body rest, frames, before⟩ ∧
        Writer.run body (before.enter segment) = .stopped inside (.notSupported thing) ∧
        before.output.text = "goto L     " ∧ inside.output.text = "goto L\n    x + " ∧
        Text.CutAt inside.output.text before.output.size) ∧
      Query.compile .aql { pretty := true } (.jumpTo "L    " "x") ≠ .error .crashed := by
  have narrow : JumpNarrowly (Expr.jumpTo "L    " "x").nodes := by decide
  obtain ⟨segment, body, rest, frames, before, inside, thing, reached, stopped, before_eq,
      inside_eq⟩ : ∃ segment body rest frames before inside thing,
        Walk.Reaches (Walk.start .aql { pretty := true } (.jumpTo "L    " "x"))
          ⟨.visit segment body rest, frames, before⟩ ∧
        Writer.run body (before.enter segment) = .stopped inside (.notSupported thing) ∧
        before.output.text = "goto L     " ∧ inside.output.text = "goto L\n    x + " := by
    refine ⟨_, _, _, _, _, _, _, .head (.begin ..) <| .head (.take ..) <| .head (.take ..) <|
      .head (.begin ..) <| .head (.take ..) <| .head (.finish _ _ rfl) <| .head (.take ..) .refl,
      rfl, ?_, ?_⟩ <;> rfl
  obtain ⟨visits, written⟩ := visits_keep_starts fun _ => narrow
  obtain ⟨-, cut, -⟩ := visits segment body rest frames before reached
  exact ⟨narrow, ⟨segment, body, rest, frames, before, inside, thing, reached, stopped, before_eq,
    inside_eq, cut inside thing stopped⟩, written⟩

/-- With ten spaces at the end of the name, the operand in front ends with less text than it began
with.  With five of them, the value is to be cut out one byte behind the line break, which is inside
of the first character of its text.  Neither query can be written. -/
theorem jumpTo_loses_start :
    (∃ segment body rest frames before inside,
      Walk.Reaches (Walk.start .aql { pretty := true } (.jumpTo "L          " "x"))
        ⟨.visit segment body rest, frames, before⟩ ∧
      Writer.run body (before.enter segment) = .finished inside ∧
      inside.output.size < before.output.size) ∧
    Query.compile .aql { pretty := true } (.jumpTo "L          " "x") = .error .crashed ∧
    (∃ segment body rest frames before inside thing,
      Walk.Reaches (Walk.start .aql { pretty := true } (.jumpTo "L     " "é"))
        ⟨.visit segment body rest, frames, before⟩ ∧
      Writer.run body (before.enter segment) = .stopped inside (.notSupported thing) ∧
      before.output.size < inside.output.size ∧
      inside.output.truncate? before.output.size = none) ∧
    Query.compile .aql { pretty := true } (.jumpTo "L     " "é") = .error .crashed := by
  refine ⟨?_, rfl, ?_, rfl⟩
  · refine ⟨_, _, _, _, _, _, .head (.begin ..) <| .head (.take ..) <| .head (.take ..) <|
      .head (.begin ..) <| .head (.take ..) <| .head (.finish _ _ rfl) <| .head (.take ..) <|
      .head (.begin ..) .refl, rfl, ?_⟩
    decide
  · refine ⟨_, _, _, _, _, _, _, .head (.begin ..) <| .head (.take ..) <| .head (.take ..) <|
      .head (.begin ..) <| .head (.take ..) <| .head (.finish _ _ rfl) <| .head (.take ..) .refl,
      rfl, ?_, rfl⟩
    decide

end AqlPipeline
