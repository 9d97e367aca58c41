import AqlPipeline.Expr.Build
import AqlPipeline.Proofs.Expr.Levels
import AqlPipeline.Proofs.Query.PathSpans
import AqlPipeline.Proofs.Script.Tidy

/-!
# Levels of indentation

Going back by a level does nothing where there is no level to go back by, so that a level too many
would not be noticed.  It never comes to that: while something is visited, the level does not fall
below that of the beginning of the visit, and at its end it is there again.  A case of a switch is
the one thing that ends a level deeper.
-/

namespace AqlPipeline

open Script

namespace Writer

/-- The level of indentation changes with the steps that are for that, and with no other. -/
theorem apply_indentation {first : Step} (level : first.isLevel) (writer : Writer) :
    (writer.apply first).output.indentation = writer.output.indentation := by
  cases first with
  | indent | dedent => cases level
  | breakLine => exact Tidy.breakLine_indentation _
  | delimit delimiter =>
      change (writer.output.delimit delimiter).indentation = _
      unfold Output.delimit
      split
      · exact Tidy.breakLine_indentation _
      · rfl
  | trim =>
      change writer.output.trimEnd.indentation = _
      unfold Output.trimEnd
      split <;> rfl
  | _ => rfl

end Writer

namespace Walk

/-- Visits that have begun, one in the other.  The inner one has begun at a level `base` and ends
`rise` levels deeper; the walk has begun at `floor` and ends `total` levels deeper. -/
inductive Begun (floor total : Nat) : List Frame → (base rise : Nat) → Prop where
  | nil : Begun floor total [] floor total
  /-- What follows a visit goes on from where the visit ends. -/
  | cons {frame : Frame} {frames : List Frame} {base height inner rise : Nat}
      (marked : frame.mark.indentation = base + height)
      (rests : Climbs rise (height + inner) frame.rest rise)
      (outer : Begun floor total frames base rise) :
      Begun floor total (frame :: frames) (base + height) inner

/-- No visit begins below the level of the beginning of the walk. -/
theorem Begun.floor_le {floor total base rise : Nat} {frames : List Frame}
    (began : Begun floor total frames base rise) : floor ≤ base := by
  induction began with
  | nil => exact Nat.le_refl floor
  | cons _ _ _ ih => exact Nat.le_trans ih (Nat.le_add_right ..)

/-- A walk in which the level is as high above the beginning of the inner visit as what is left of
that visit asks for. -/
def Balanced (floor total : Nat) (walk : Walk) : Prop :=
  ∃ base height rise, Begun floor total walk.frames base rise ∧
    Climbs rise height walk.script rise ∧ walk.writer.output.indentation = base + height

namespace Balanced

variable {floor total : Nat}

theorem take {first : AqlPipeline.Step} {rest : Script} {frames : List Frame} {writer : Writer}
    (balanced : Balanced floor total ⟨.step first rest, frames, writer⟩) :
    Balanced floor total ⟨rest, frames, writer.apply first⟩ := by
  obtain ⟨base, height, rise, began, climbs, level⟩ := balanced
  cases climbs with
  | step isLevel rests =>
      have same := Writer.apply_indentation isLevel writer
      exact ⟨base, height, rise, began, rests, same.trans level⟩
  | indent rests => exact ⟨base, height + 1, rise, began, rests, congrArg (· + 1) level⟩
  -- there is a level to go back by: the one above that of the beginning
  | dedent rests => exact ⟨base, _, rise, began, rests, congrArg (· - 1) level⟩

theorem begin {segment : String} {body rest : Script} {frames : List Frame} {writer : Writer}
    (balanced : Balanced floor total ⟨.visit segment body rest, frames, writer⟩) :
    Balanced floor total
      ⟨body, ⟨writer.mark segment, rest⟩ :: frames, writer.enter segment⟩ := by
  obtain ⟨base, height, rise, began, climbs, level⟩ := balanced
  cases climbs with
  | visit _ bodies rests => exact ⟨base + height, 0, _, .cons level rests began, bodies, level⟩

theorem replace {thing : String} {frame : Frame} {frames : List Frame} {writer replaced : Writer}
    (balanced : Balanced floor total ⟨.fail (.notSupported thing), frame :: frames, writer⟩)
    (recovered : Writer.recover? frame.mark writer thing = some replaced) :
    Balanced floor total ⟨.done, frame :: frames, replaced⟩ := by
  obtain ⟨kept, -, rfl⟩ := Writer.recover?_eq_some recovered
  obtain ⟨_, height, rise, began, climbs, -⟩ := balanced
  -- what fails by itself does not end deeper than it began
  cases climbs with
  | fail error =>
      cases began with
      | cons marked rests outer => exact ⟨_, 0, 0, .cons marked rests outer, .done, marked⟩

theorem finish {frame : Frame} {frames : List Frame} {writer after : Writer}
    (balanced : Balanced floor total ⟨.done, frame :: frames, writer⟩)
    (left : Writer.leave frame.mark writer = .finished after) :
    Balanced floor total ⟨frame.rest, frames, after⟩ := by
  obtain ⟨_, height, rise, began, climbs, level⟩ := balanced
  have output_eq := (Writer.leave_finished left).1
  cases climbs with
  | done =>
      cases began with
      | cons marked rests outer =>
          refine ⟨_, _, _, outer, rests, ?_⟩
          change after.output.indentation = _
          rw [output_eq, ← Nat.add_assoc]
          exact level

theorem step {walk next : Walk} (balanced : Balanced floor total walk) (step : Step walk next) :
    Balanced floor total next := by
  cases step with
  | take => exact balanced.take
  | begin => exact balanced.begin
  | replace _ _ recovered => exact balanced.replace recovered
  | finish _ _ left => exact balanced.finish left

theorem reaches {walk later : Walk} (balanced : Balanced floor total walk)
    (reached : Reaches walk later) : Balanced floor total later := by
  induction reached with
  | refl => exact balanced
  | tail _ step ih => exact ih.step step

/-- Where a walk goes back by a level, it is deeper than at its beginning. -/
theorem floor_lt {rest : Script} {frames : List Frame} {writer : Writer}
    (balanced : Balanced floor total ⟨.step .dedent rest, frames, writer⟩) :
    floor < writer.output.indentation := by
  obtain ⟨base, height, rise, began, climbs, level⟩ := balanced
  have above := began.floor_le
  change writer.output.indentation = _ at level
  cases climbs with
  | step isLevel => cases isLevel
  | dedent => omega

/-- The level at the end of a walk. -/
theorem indentation_eq {writer : Writer} (balanced : Balanced floor total ⟨.done, [], writer⟩) :
    writer.output.indentation = floor + total := by
  obtain ⟨base, height, rise, began, climbs, level⟩ := balanced
  cases began with
  | nil =>
      cases climbs with
      | done => exact level

end Balanced

/-- The walk of a visit begins at the level of its writer. -/
theorem balanced_enter {rise : Nat} {body : Script} (bodies : Climbs rise 0 body rise)
    (segment : String) (before : Writer) :
    Balanced before.output.indentation rise ⟨.enter segment body, [], before⟩ := by
  have entered : Climbs rise 0 (.enter segment body) (0 + rise) := .enter segment bodies
  rw [Nat.zero_add] at entered
  exact ⟨_, 0, rise, .nil, entered, rfl⟩

end Walk

/-- All that can be visited. -/
inductive Item where
  /-- An expression, where it stands as the placement says. -/
  | expression (expr : Expr) (placement : Placement)
  /-- An expression that is declared. -/
  | declaredExpression (expr : Expr) (placement : Placement)
  /-- A parameter. -/
  | parameter (reference : Parameter)
  /-- A parameter that is declared. -/
  | declaredParameter (reference : Parameter)
  /-- A constructor call. -/
  | newObject (new : NewObject)
  /-- A binding. -/
  | binding (bound : Binding)
  /-- The arguments of one item of a collection. -/
  | elementInit (init : ElementInit)
  /-- A case of a switch. -/
  | switchCase (branch : SwitchCase)
  /-- A handler of exceptions. -/
  | catchBlock (handler : CatchBlock)
  /-- The target of a jump. -/
  | labelTarget (target : LabelTarget)

namespace Item

/-- What writing the item does. -/
def script (dialect : Dialect) : Item → Script
  | .expression expr placement => expr.script dialect placement
  | .declaredExpression expr placement => expr.declaration dialect placement
  | .parameter reference => .write reference.name
  | .declaredParameter reference => Render.declaration reference
  | .newObject new => new.script dialect
  | .binding bound => bound.script dialect
  | .elementInit init => init.script dialect
  | .switchCase branch => branch.script dialect
  | .catchBlock handler => handler.script dialect
  | .labelTarget target => Render.labelTarget target

/-- How many levels deeper the visit of the item ends. -/
def rise : Item → Nat
  | .switchCase _ => 1
  | _ => 0

theorem script_climbs (dialect : Dialect) (item : Item) :
    Climbs item.rise 0 (item.script dialect) item.rise :=
  match item with
  | .expression expr placement => expr.script_level placement 0
  | .declaredExpression expr placement => expr.declaration_level placement 0
  | .parameter reference => Level.write reference.name 0
  | .declaredParameter reference => Render.declaration_level reference 0
  | .newObject new => new.script_level 0
  | .binding bound => bound.script_level 0
  | .elementInit init => init.script_level 0
  | .switchCase branch => branch.script_climbs
  | .catchBlock handler => handler.script_level 0
  | .labelTarget target => Render.labelTarget_level target 0

end Item

/-- A visit that comes to its end leaves the level of indentation as it was, but for a case of a
switch, which leaves it one higher.  While a query is written, there always is a level to go back
by, and at the end there is none left. -/
theorem visits_balance_indentation (dialect : Dialect) :
    (∀ (item : Item) (segment : String) (before after : Writer),
      Writer.run (.enter segment (item.script dialect)) before = .finished after →
        after.output.indentation = before.output.indentation + item.rise) ∧
    ∀ (settings : Settings) (expr : Expr),
      (∀ rest frames writer,
        Walk.Reaches (Walk.start dialect settings expr) ⟨.step .dedent rest, frames, writer⟩ →
          0 < writer.output.indentation) ∧
      ∀ writer,
        Writer.run (.enter "" (expr.script dialect {})) (.start settings) = .finished writer →
          writer.output.indentation = 0 := by
  have visited : ∀ (item : Item) (segment : String) (before after : Writer),
      Writer.run (.enter segment (item.script dialect)) before = .finished after →
        after.output.indentation = before.output.indentation + item.rise := by
    intro item segment before after finished
    have begun := Walk.balanced_enter (item.script_climbs dialect) segment before
    exact (begun.reaches ((Walk.reaches_of_run _ [] before).1 after finished)).indentation_eq
  refine ⟨visited, fun settings expr => ⟨?_, visited (.expression expr {}) "" (.start settings)⟩⟩
  intro rest frames writer reached
  have begun : Walk.Balanced 0 0 (Walk.start dialect settings expr) :=
    Walk.balanced_enter (expr.script_level {} 0) "" (.start settings)
  exact (begun.reaches reached).floor_lt

/-- A case that there is no AQL for. -/
def SwitchCase.removal (value : Int) : SwitchCase :=
  .mk [.intConstant value] (.late .deleteIndex [] .void)

/-- A choice with a case that there is no AQL for, and with another choice in the next one. -/
def Expr.nestedSwitch : Expr :=
  let user : Expr := .parameter ⟨"x", .named "User"⟩
  let inner : Expr := .switch user [.removal 3] none .void
  .switch user [.removal 1, .mk [.intConstant 2] inner] (some user) .void

/-- The choice is written with two markers and ends at level 0, its first case ends one level deeper
than it begins, and there is a level to go back by behind that case. -/
theorem visits_balance_indentation_nestedSwitch :
    (∃ writer,
      Writer.run (.enter "" (Expr.nestedSwitch.script .aql {})) (.start { pretty := true }) =
        .finished writer ∧
      writer.gaps.length = 2 ∧ writer.output.indentation = 0) ∧
    (∃ after,
      Writer.run (.enter "Cases[0]" ((Item.switchCase (.removal 1)).script .aql))
        { Writer.start {} with output := ⟨"", 3, false⟩ } = .finished after ∧
      after.output.indentation = 3 + 1) ∧
    ∃ rest frames writer,
      Walk.Reaches (Walk.start .aql { pretty := true } .nestedSwitch)
        ⟨.step .dedent rest, frames, writer⟩ ∧
      0 < writer.output.indentation := by
  obtain ⟨visited, written⟩ := visits_balance_indentation .aql
  obtain ⟨whole, ran, gaps_eq⟩ : ∃ writer,
      Writer.run (.enter "" (Expr.nestedSwitch.script .aql {})) (.start { pretty := true }) =
        .finished writer ∧ writer.gaps.length = 2 :=
    set_option maxRecDepth 2000 in ⟨_, rfl, rfl⟩
  obtain ⟨after, case_ran⟩ : ∃ after,
      Writer.run (.enter "Cases[0]" ((Item.switchCase (.removal 1)).script .aql))
        { Writer.start {} with output := ⟨"", 3, false⟩ } = .finished after := ⟨_, rfl⟩
  refine ⟨⟨whole, ran, gaps_eq, (written { pretty := true } .nestedSwitch).2 whole ran⟩,
    ⟨after, case_ran, visited _ _ _ after case_ran⟩, ?_⟩
  obtain ⟨rest, frames, writer, reached⟩ : ∃ rest frames writer,
      Walk.Reaches (Walk.start .aql { pretty := true } .nestedSwitch)
        ⟨.step .dedent rest, frames, writer⟩ := by
    -- past the value of the switch, past that of its first case, and past the marker in that case
    exact ⟨_, _, _, .head (.begin ..) <| .head (.take ..) <| .head (.begin ..) <|
      .head (.take ..) <| .head (.finish _ _ rfl) <| .head (.take ..) <| .head (.take ..) <|
      .head (.take ..) <| .head (.begin ..) <| .head (.take ..) <| .head (.begin ..) <|
      .head (.take ..) <| .head (.finish _ _ rfl) <| .head (.take ..) <| .head (.take ..) <|
      .head (.take ..) <| .head (.begin ..) <| .head (.replace _ _ rfl) <| .head (.finish _ _ rfl) <|
      .head (.take ..) <| .head (.take ..) <| .head (.take ..) <| .head (.finish _ _ rfl) .refl⟩
  exact ⟨rest, frames, writer, reached,
    (written { pretty := true } .nestedSwitch).1 rest frames writer reached⟩

end AqlPipeline
