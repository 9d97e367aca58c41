import AqlPipeline.Proofs.Writer.Run
import Mathlib.Logic.Relation

/-!
# Walks

A walk is a run taken apart into single steps: what is left of the inner visit, the visits around
it, and the writer.  Whatever a run comes to, the walk of its script comes to as well, inside of any
visits.  Where a run crashes, the walk comes to a point that has no next step.
-/

namespace AqlPipeline

/-- A visit that has begun: what has been remembered of its start, and what follows it. -/
structure Frame where
  /-- What is remembered of its start. -/
  mark : Writer.Mark
  /-- What follows it. -/
  rest : Script

/-- A run that has come to some point. -/
structure Walk where
  /-- What is left of the innermost visit. -/
  script : Script
  /-- The visits that have begun, the innermost one first. -/
  frames : List Frame
  /-- All that has been written and learnt. -/
  writer : Writer

namespace Walk

/-- One step of a walk. -/
inductive Step : Walk → Walk → Prop
  /-- A step of the script is taken. -/
  | take (first : AqlPipeline.Step) (rest : Script) (frames : List Frame) (writer : Writer) :
      Step ⟨.step first rest, frames, writer⟩ ⟨rest, frames, writer.apply first⟩
  /-- A visit begins. -/
  | begin (segment : String) (body rest : Script) (frames : List Frame) (writer : Writer) :
      Step ⟨.visit segment body rest, frames, writer⟩
        ⟨body, ⟨writer.mark segment, rest⟩ :: frames, writer.enter segment⟩
  /-- A visit is replaced by its marker. -/
  | replace (frame : Frame) (frames : List Frame) {thing : String} {writer replaced : Writer}
      (recovered : Writer.recover? frame.mark writer thing = some replaced) :
      Step ⟨.fail (.notSupported thing), frame :: frames, writer⟩
        ⟨.done, frame :: frames, replaced⟩
  /-- A visit ends, and is recorded. -/
  | finish (frame : Frame) (frames : List Frame) {writer after : Writer}
      (left : Writer.leave frame.mark writer = .finished after) :
      Step ⟨.done, frame :: frames, writer⟩ ⟨frame.rest, frames, after⟩

/-- Any number of steps of a walk. -/
def Reaches : Walk → Walk → Prop :=
  Relation.ReflTransGen Step

/-- A visit whose inside comes to its end, or to something that is not supported, is walked
through. -/
theorem reaches_behind {segment : String} {body rest : Script} {frames : List Frame}
    {before middle : Writer}
    (finishes : ∀ after, Writer.run body (before.enter segment) = .finished after →
      Reaches ⟨body, ⟨before.mark segment, rest⟩ :: frames, before.enter segment⟩
        ⟨.done, ⟨before.mark segment, rest⟩ :: frames, after⟩)
    (stops : ∀ after thing,
      Writer.run body (before.enter segment) = .stopped after (.notSupported thing) →
      Reaches ⟨body, ⟨before.mark segment, rest⟩ :: frames, before.enter segment⟩
        ⟨.fail (.notSupported thing), ⟨before.mark segment, rest⟩ :: frames, after⟩)
    (closed : Writer.close (before.mark segment) (Writer.run body (before.enter segment)) =
      .finished middle) :
    Reaches ⟨.visit segment body rest, frames, before⟩ ⟨rest, frames, middle⟩ := by
  have entered := Step.begin segment body rest frames before
  rcases Writer.close_eq_finished closed with
    ⟨inside, ran, left⟩ | ⟨inside, thing, _, ran, recovered, left⟩
  · exact .head entered ((finishes inside ran).tail (.finish _ frames left))
  · have replaced := (stops inside thing ran).tail (.replace _ frames recovered)
    exact .head entered (replaced.tail (.finish _ frames left))

/-- A run and its walk come to the same end, be it the end of the script or something that is not
supported. -/
theorem reaches_of_run (script : Script) (frames : List Frame) (before : Writer) :
    (∀ after, Writer.run script before = .finished after →
      Reaches ⟨script, frames, before⟩ ⟨.done, frames, after⟩) ∧
    (∀ after thing, Writer.run script before = .stopped after (.notSupported thing) →
      Reaches ⟨script, frames, before⟩ ⟨.fail (.notSupported thing), frames, after⟩) := by
  induction script generalizing frames before with
  | done =>
      constructor
      · rintro after ⟨⟩
        exact .refl
      · rintro after thing ⟨⟩
  | fail error =>
      constructor
      · rintro after ⟨⟩
      · rintro after thing ⟨⟩
        exact .refl
  | step first rest ih =>
      obtain ⟨finishes, stops⟩ := ih frames (before.apply first)
      have taken := Step.take first rest frames before
      exact ⟨fun after finished => .head taken (finishes after finished),
        fun after thing stopped => .head taken (stops after thing stopped)⟩
  | visit segment body rest bodyIh restIh =>
      obtain ⟨bodyFinishes, bodyStops⟩ :=
        bodyIh (⟨before.mark segment, rest⟩ :: frames) (before.enter segment)
      rw [Writer.run]
      cases closed : Writer.close (before.mark segment)
          (Writer.run body (before.enter segment)) with
      | finished middle =>
          have reached := reaches_behind bodyFinishes bodyStops closed
          obtain ⟨finishes, stops⟩ := restIh frames middle
          exact ⟨fun after finished => reached.trans (finishes after finished),
            fun after thing stopped => reached.trans (stops after thing stopped)⟩
      | stopped middle error =>
          constructor
          · rintro after ⟨⟩
          · rintro after thing ⟨⟩
            exact (Writer.close_ne_notSupported _ _ _ _ closed).elim
      | crashed middle =>
          constructor
          · rintro after ⟨⟩
          · rintro after thing ⟨⟩

/-- A walk comes to the end of each visit that a run comes to the end of. -/
theorem reaches_end_of_visit {segment : String} {body : Script} {before after : Writer}
    (finished : Writer.run (.enter segment body) before = .finished after) (rest : Script)
    (frames : List Frame) :
    ∃ inside, Writer.leave (before.mark segment) inside = .finished after ∧
      Reaches ⟨body, ⟨before.mark segment, rest⟩ :: frames, before.enter segment⟩
        ⟨.done, ⟨before.mark segment, rest⟩ :: frames, inside⟩ := by
  rw [Writer.run_enter] at finished
  obtain ⟨finishes, stops⟩ :=
    reaches_of_run body (⟨before.mark segment, rest⟩ :: frames) (before.enter segment)
  rcases Writer.close_eq_finished finished with
    ⟨inside, ran, left⟩ | ⟨inside, thing, replaced, ran, recovered, left⟩
  · exact ⟨inside, left, finishes inside ran⟩
  · exact ⟨replaced, left, (stops inside thing ran).tail (.replace _ frames recovered)⟩

/-- A walk comes behind each visit that a run comes to the end of. -/
theorem reaches_of_visit {segment : String} {body : Script} {before after : Writer}
    (finished : Writer.run (.enter segment body) before = .finished after) (rest : Script)
    (frames : List Frame) :
    Reaches ⟨.visit segment body rest, frames, before⟩ ⟨rest, frames, after⟩ := by
  obtain ⟨inside, left, ended⟩ := reaches_end_of_visit finished rest frames
  exact .head (.begin segment body rest frames before) (ended.tail (.finish _ frames left))

/-! ## Crashes -/

/-- Whether a walk cannot go on. -/
inductive Crashes : Walk → Prop
  /-- The visit that ends has less text than it began with. -/
  | short {frame : Frame} {frames : List Frame} {writer : Writer}
      (short : writer.output.size < frame.mark.size) : Crashes ⟨.done, frame :: frames, writer⟩
  /-- The text cannot be cut where the visit began that is to be replaced. -/
  | uncut {thing : String} {frame : Frame} {frames : List Frame} {writer : Writer}
      (uncut : Writer.recover? frame.mark writer thing = none) :
      Crashes ⟨.fail (.notSupported thing), frame :: frames, writer⟩

/-- A visit that crashes is walked to where it does, if its inside is. -/
theorem reaches_crash_inside {segment : String} {body rest : Script} {before : Writer}
    {frames : List Frame}
    (inner : (Writer.run body (before.enter segment)).HasCrashed →
      ∃ point, Reaches ⟨body, ⟨before.mark segment, rest⟩ :: frames, before.enter segment⟩ point ∧
        point.Crashes)
    (crashed : (Writer.run (.enter segment body) before).HasCrashed) :
    ∃ point, Reaches ⟨body, ⟨before.mark segment, rest⟩ :: frames, before.enter segment⟩ point ∧
      point.Crashes := by
  obtain ⟨finishes, stops⟩ :=
    reaches_of_run body (⟨before.mark segment, rest⟩ :: frames) (before.enter segment)
  rw [Writer.run_enter] at crashed
  rcases Writer.close_hasCrashed crashed with
    inside | ⟨inside, ran, short⟩ | ⟨inside, thing, ran, uncut⟩ |
      ⟨inside, thing, replaced, ran, recovered, short⟩
  · exact inner inside
  · exact ⟨_, finishes inside ran, .short short⟩
  · exact ⟨_, stops inside thing ran, .uncut uncut⟩
  · exact ⟨_, (stops inside thing ran).tail (.replace _ _ recovered), .short short⟩

/-- Where a run crashes, its walk cannot go on. -/
theorem reaches_crash (script : Script) (frames : List Frame) (before : Writer)
    (crashed : (Writer.run script before).HasCrashed) :
    ∃ point, Reaches ⟨script, frames, before⟩ point ∧ point.Crashes := by
  induction script generalizing frames before with
  | done => obtain ⟨_, ⟨⟩⟩ := crashed
  | fail error => obtain ⟨_, ⟨⟩⟩ := crashed
  | step first rest ih =>
      obtain ⟨point, reached, crashes⟩ := ih frames (before.apply first) crashed
      exact ⟨point, .head (.take first rest frames before) reached, crashes⟩
  | visit segment body rest bodyIh restIh =>
      rw [Writer.run_visit, ← Writer.run_enter] at crashed
      cases ran : Writer.run (.enter segment body) before with
      | finished middle =>
          rw [ran] at crashed
          obtain ⟨point, reached, crashes⟩ := restIh frames middle crashed
          exact ⟨point, (reaches_of_visit ran rest frames).trans reached, crashes⟩
      | stopped middle error =>
          rw [ran] at crashed
          obtain ⟨_, ⟨⟩⟩ := crashed
      | crashed middle =>
          obtain ⟨point, reached, crashes⟩ :=
            reaches_crash_inside (bodyIh _ (before.enter segment)) ⟨middle, ran⟩
          exact ⟨point, .head (.begin segment body rest frames before) reached, crashes⟩

end Walk

end AqlPipeline
