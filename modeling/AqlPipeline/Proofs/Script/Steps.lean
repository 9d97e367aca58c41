import AqlPipeline.Proofs.Query.Compile

/-!
# Scripts that only take steps

A script without a failure anywhere does no more than take its steps in order, those of its visits
included: only the spans of the positions it visits are recorded besides.
-/

namespace AqlPipeline

/-- A script in which nothing fails, and its steps in order. -/
inductive Script.Takes : Script → List Step → Prop where
  | done : Takes .done []
  | step (first : Step) {rest : Script} {steps : List Step} (rests : Takes rest steps) :
      Takes (.step first rest) (first :: steps)
  | visit (segment : String) {body rest : Script} {inner steps : List Step}
      (bodies : Takes body inner) (rests : Takes rest steps) :
      Takes (.visit segment body rest) (inner ++ steps)

namespace Script.Takes

theorem append {first second : Script} {steps more : List Step} (firsts : Takes first steps)
    (seconds : Takes second more) : Takes (first ++ second) (steps ++ more) := by
  induction firsts with
  | done => exact seconds
  | step first _ ih => exact .step first ih
  | visit segment bodies _ _ ih =>
      rw [List.append_assoc]
      exact .visit segment bodies ih

theorem single (step : Step) : Takes (.step step .done) [step] :=
  .step step .done

theorem write (text : String) : Takes (.write text) [.write text] :=
  .single _

theorem enter (segment : String) {body : Script} {steps : List Step} (bodies : Takes body steps) :
    Takes (.enter segment body) steps := by
  simpa [Script.enter] using Takes.visit segment bodies .done

end Script.Takes

namespace Writer

/-- Takes some steps. -/
def takeSteps (writer : Writer) (steps : List Step) : Writer :=
  steps.foldl apply writer

@[simp] theorem takeSteps_nil (writer : Writer) : writer.takeSteps [] = writer := rfl

@[simp] theorem takeSteps_cons (writer : Writer) (first : Step) (steps : List Step) :
    writer.takeSteps (first :: steps) = (writer.apply first).takeSteps steps := rfl

theorem takeSteps_append (writer : Writer) (first second : List Step) :
    writer.takeSteps (first ++ second) = (writer.takeSteps first).takeSteps second :=
  List.foldl_append

/-- The writer at another position. -/
def atTrail (writer : Writer) (trail : Trail) : Writer :=
  { writer with trail }

theorem takeSteps_atTrail (writer : Writer) (trail : Trail) (steps : List Step) :
    (writer.atTrail trail).takeSteps steps = (writer.takeSteps steps).atTrail trail := by
  induction steps generalizing writer with
  | nil => rfl
  | cons first steps ih =>
      have apply_eq : (writer.atTrail trail).apply first = (writer.apply first).atTrail trail := by
        cases first <;> rfl
      rw [takeSteps_cons, apply_eq, ih, takeSteps_cons]

/-- Where spans are not recorded, a visit does not change the trail. -/
theorem closed_trail {before inside : Writer} (unspanned : before.trail.spans = none)
    (inside_unspanned : inside.trail.spans = none) :
    (closed before inside).trail = before.trail := by
  have spans_eq : (closed before inside).trail.spans = before.trail.spans := by
    simp [closed, Trail.record, Trail.mapSpans, unspanned, inside_unspanned]
  rw [← (show Trail.mk _ _ = before.trail from rfl), ← spans_eq]
  rfl

/-- A run without failures takes the steps and is back at its position, unless it crashes. -/
theorem run_of_takes {script : Script} {steps : List Step} (takes : script.Takes steps)
    (before : Writer) :
    (∃ trail, trail.segments = before.trail.segments ∧
      (before.trail.spans = none → trail = before.trail) ∧
      run script before = .finished ((before.takeSteps steps).atTrail trail)) ∨
    (run script before).HasCrashed := by
  induction takes generalizing before with
  | done => exact .inl ⟨before.trail, rfl, fun _ => rfl, rfl⟩
  | step first _ ih =>
      rcases ih (before.apply first) with ⟨trail, segments_eq, untracked, ran⟩ | crashed
      · rw [apply_trail] at segments_eq untracked
        exact .inl ⟨trail, segments_eq, untracked, ran⟩
      · exact .inr crashed
  | @visit segment body rest inner steps _ _ bodyIh restIh =>
      rw [run_visit]
      rcases bodyIh (before.enter segment) with
        ⟨inside, inside_segments, inside_untracked, bodyRan⟩ | crashed
      · have entered : before.enter segment = before.atTrail (before.enter segment).trail := rfl
        rw [entered, takeSteps_atTrail] at bodyRan
        rw [entered, bodyRan, close, leave_eq inside_segments]
        split
        · exact .inr ⟨_, rfl⟩
        -- the visit leaves its steps, at the position before it
        let behind := closed before ((before.takeSteps inner).atTrail inside)
        rcases restIh behind with ⟨trail, segments_eq, untracked, restRan⟩ | crashed
        · have behind_eq : behind = (before.takeSteps inner).atTrail behind.trail := rfl
          refine .inl ⟨trail, segments_eq, fun unspanned => ?_, ?_⟩
          · have kept : (before.enter segment).trail.spans = none := by
              simp only [enter, Trail.push]
              split <;> exact unspanned
            have inside_spans : inside.spans = none := by rw [inside_untracked kept, kept]
            have behind_trail : behind.trail = before.trail := closed_trail unspanned inside_spans
            rw [← behind_trail]
            exact untracked (behind_trail ▸ unspanned)
          · change run rest behind = _
            rw [restRan, behind_eq, takeSteps_atTrail, takeSteps_append]
            rfl
        · exact .inr crashed
      · exact .inr ((crashed.close _).andThen _)

end Writer

/-- The compact query of a pipeline in which nothing fails: its steps are taken from the start. -/
theorem Query.compileWith_of_takes {dialect : Dialect} {expr : Expr} {steps : List Step}
    (takes : (expr.script dialect {}).Takes steps) (suffix : Nat → String) {settings : Settings}
    (compact : settings.pretty = false) :
    ∃ trail, (settings.trackPathSpans = false → trail = .start false) ∧
      Query.compileWith suffix dialect settings expr =
        .ok (((Writer.startWith suffix settings).takeSteps steps).atTrail trail).finish := by
  rcases Writer.run_of_takes (takes.enter "") (.startWith suffix settings) with
    ⟨trail, -, untracked, ran⟩ | crashed
  · refine ⟨trail, fun unspanned => ?_, ?_⟩
    · have start_eq : (Writer.startWith suffix settings).trail = .start false := by
        simp [Writer.startWith, Writer.start, unspanned]
      rw [← start_eq]
      exact untracked (by rw [start_eq]; rfl)
    · rw [Query.compileWith, ran]
  · exact absurd crashed (Writer.not_hasCrashed compact _)

/-- The query of a pipeline in which nothing fails behind the first visit: the writer behind that
visit takes the other steps. -/
theorem Query.finish_of_takes {dialect : Dialect} {expr : Expr} {segment : String}
    {first rest : Script} {steps : List Step} {settings : Settings} {query : Query}
    (script_eq : expr.script dialect {} = .enter segment first ++ rest) (takes : rest.Takes steps)
    (compiled : Query.compile dialect settings expr = .ok query) :
    ∃ writer trail,
      Writer.run (.enter segment first) ((Writer.start settings).enter "") = .finished writer ∧
        query = ((writer.takeSteps steps).atTrail trail).finish := by
  obtain ⟨last, finished, rfl⟩ := Query.run_of_compile compiled
  rw [script_eq, Writer.run_enter] at finished
  rcases Writer.close_eq_finished finished with
    ⟨inside, ran, left⟩ | ⟨inside, thing, -, ran, -⟩
  · obtain ⟨writer, firstRan, restRan⟩ := Writer.finished_of_append ran
    rcases Writer.run_of_takes takes writer with ⟨trail, segments_eq, -, taken⟩ | ⟨_, crashed⟩
    · cases restRan.symm.trans taken
      obtain ⟨-, -, -, extended⟩ := Writer.run_enter_finished firstRan
      have balanced : ((writer.takeSteps steps).atTrail trail).trail.segments =
          ((Writer.start settings).enter "").trail.segments := segments_eq.trans extended.segments
      rw [Writer.eq_closed_of_leave balanced left]
      exact ⟨writer, _, firstRan, rfl⟩
    · cases restRan.symm.trans crashed
  · -- neither the visit nor the steps behind it stop at what is not supported
    rw [Writer.run_append] at ran
    cases firstRan : Writer.run (.enter segment first) ((Writer.start settings).enter "") with
    | finished writer =>
        rw [firstRan, Outcome.andThen] at ran
        rcases Writer.run_of_takes takes writer with ⟨_, -, -, taken⟩ | ⟨_, crashed⟩
        · cases ran.symm.trans taken
        · cases ran.symm.trans crashed
    | stopped writer error =>
        rw [firstRan] at ran
        cases ran
        rw [Writer.run_enter] at firstRan
        exact (Writer.close_ne_notSupported _ _ _ _ firstRan).elim
    | crashed writer =>
        rw [firstRan] at ran
        cases ran

end AqlPipeline
