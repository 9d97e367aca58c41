import AqlPipeline.Proofs.Script.Steps

/-!
# Runs with different settings

Settings decide what a writer starts with: the layout, whether spans are recorded, the collection
and the iteration variable to fall back to.  None of them tells where a run stops, what it binds,
which parts it replaces or what it learns to be yielded, so writers that agree on these still do
after a run, unless one of them crashes.
-/

namespace AqlPipeline.Writer

/-- Two writers that are at the same position and have found the same so far.  If all settings but
the recording of spans are the `same`, they differ only in the spans. -/
structure Twins (same : Prop) (writer other : Writer) : Prop where
  /-- They are at the same position. -/
  segments : other.trail.segments = writer.trail.segments
  /-- They have replaced the same parts. -/
  gaps : other.gaps = writer.gaps
  /-- They have bound the same variables. -/
  binds : other.binds = writer.binds
  /-- They have learnt the same about what is yielded. -/
  projection : other.facts.projectionType = writer.facts.projectionType
  /-- Apart from the trail they are equal, if the settings are. -/
  rest : same → other = writer.atTrail other.trail

theorem apply_atTrail (writer : Writer) (trail : Trail) (step : Step) :
    (writer.atTrail trail).apply step = (writer.apply step).atTrail trail := by
  cases step <;> rfl

/-- What a step binds depends on what is bound. -/
theorem apply_binds_eq {writer other : Writer} (binds : other.binds = writer.binds) (step : Step) :
    (other.apply step).binds = (writer.apply step).binds := by
  cases step with
  | bindLiteral value =>
      have registered := congrArg (fun table => (table.register literalName value).2) binds
      exact registered
  | bindNamed name value =>
      have registered := congrArg (fun table => (table.registerNamed name value).2) binds
      exact registered
  | _ => exact binds

/-- What a step learns to be yielded depends on what is known to be. -/
theorem apply_projection_eq {writer other : Writer}
    (known : other.facts.projectionType = writer.facts.projectionType) (step : Step) :
    (other.apply step).facts.projectionType = (writer.apply step).facts.projectionType := by
  cases step with
  | project typeName =>
      have learnt := congrArg (·.or (some typeName)) known
      exact learnt
  | _ => exact known

namespace Twins

variable {same : Prop} {writer other : Writer}

theorem apply (twins : Twins same writer other) (step : Step) :
    Twins same (writer.apply step) (other.apply step) where
  segments := by simpa only [apply_trail] using twins.segments
  gaps := by simpa only [apply_gaps] using twins.gaps
  binds := apply_binds_eq twins.binds step
  projection := apply_projection_eq twins.projection step
  rest agree := by
    rw [apply_trail, ← apply_atTrail, ← twins.rest agree]

theorem enter (twins : Twins same writer other) (segment : String) :
    Twins same (writer.enter segment) (other.enter segment) where
  segments := by rw [enter_segments, enter_segments, twins.segments]
  gaps := twins.gaps
  binds := twins.binds
  projection := twins.projection
  rest agree := by
    rw [twins.rest agree]
    rfl

theorem path_eq (twins : Twins same writer other) : other.trail.path = writer.trail.path := by
  rw [path_eq_joined, path_eq_joined, twins.segments]

/-- What has been written since a visit began is replaced in both of them, whatever is kept. -/
theorem withMarker {inside inside' : Writer} (inner : Twins same inside inside')
    (twins : Twins same writer other) {kept kept' : Output} (kept_eq : same → kept' = kept)
    (segment thing : String) :
    Twins same (withMarker (writer.mark segment) inside kept thing)
      (withMarker (other.mark segment) inside' kept' thing) where
  segments := inner.segments
  gaps := by simp only [Writer.withMarker, inner.gaps, inner.path_eq]
  binds := inner.binds
  projection := inner.projection
  rest agree := by
    have path_eq := inner.path_eq
    rw [inner.rest agree, twins.rest agree, kept_eq agree]
    simp only [Writer.withMarker, mark, atTrail, path_eq]

theorem closed {inside inside' : Writer} (inner : Twins same inside inside')
    (twins : Twins same writer other) :
    Twins same (closed writer inside) (closed other inside') where
  segments := twins.segments
  gaps := inner.gaps
  binds := inner.binds
  projection := inner.projection
  rest agree := by
    rw [inner.rest agree, twins.rest agree]
    rfl

theorem output_eq (twins : Twins same writer other) (agree : same) :
    other.output = writer.output := by
  rw [twins.rest agree]
  rfl

end Twins

/-- Two ways to end that are the same, with writers that are twins, unless one of the runs has
crashed.  If the settings are the `same`, then the other one has crashed too. -/
inductive EndAsTwins (same : Prop) : Outcome → Outcome → Prop where
  | finished {writer other : Writer} (twins : Twins same writer other) :
      EndAsTwins same (.finished writer) (.finished other)
  | stopped {writer other : Writer} (twins : Twins same writer other) (error : Error) :
      EndAsTwins same (.stopped writer error) (.stopped other error)
  | crashed {outcome outcome' : Outcome} (either : outcome.HasCrashed ∨ outcome'.HasCrashed)
      (both : same → outcome.HasCrashed ∧ outcome'.HasCrashed) : EndAsTwins same outcome outcome'

namespace EndAsTwins

variable {same : Prop} {writer other : Writer} {segment : String}

/-- Visits with twins inside are left alike, unless one of them crashes. -/
theorem leave {inside inside' : Writer} (inner : Twins same inside inside')
    (twins : Twins same writer other)
    (balanced : inside.trail.segments = (writer.enter segment).trail.segments)
    (balanced' : inside'.trail.segments = (other.enter segment).trail.segments) :
    EndAsTwins same (leave (writer.mark segment) inside) (leave (other.mark segment) inside') := by
  rw [leave_eq balanced, leave_eq balanced']
  by_cases short : inside.output.size < writer.output.size ∨
    inside'.output.size < other.output.size
  · refine .crashed ?_ fun agree => ?_
    · rcases short with short | short
      · exact .inl ⟨_, if_pos short⟩
      · exact .inr ⟨_, if_pos short⟩
    · rw [inner.output_eq agree, twins.output_eq agree] at short ⊢
      exact ⟨⟨_, if_pos (or_self_iff.mp short)⟩, _, if_pos (or_self_iff.mp short)⟩
  · rw [not_or] at short
    rw [if_neg short.1, if_neg short.2]
    exact .finished (inner.closed twins)

/-- Visits whose insides end alike are left alike. -/
theorem close (twins : Twins same writer other) {body : Script} {outcome outcome' : Outcome}
    (ends : Ends body (writer.enter segment) outcome)
    (ends' : Ends body (other.enter segment) outcome')
    (inner : EndAsTwins same outcome outcome') :
    EndAsTwins same (close (writer.mark segment) outcome) (close (other.mark segment) outcome') := by
  cases inner with
  | finished inner =>
      obtain ⟨-, added, -⟩ := ends
      obtain ⟨-, added', -⟩ := ends'
      exact .leave inner twins added.segments added'.segments
  | @stopped inside inside' inner error =>
      cases error with
      | notSupported thing =>
          obtain ⟨-, added, -⟩ := ends
          obtain ⟨-, added', -⟩ := ends'
          have cut_eq : same → inside'.output.truncate? (other.mark segment).size =
              inside.output.truncate? (writer.mark segment).size := fun agree => by
            simp only [mark, inner.output_eq agree, twins.output_eq agree]
          simp only [Writer.close, recover?]
          cases cut : inside.output.truncate? (writer.mark segment).size with
          | none =>
              refine .crashed (.inl ⟨_, rfl⟩) fun agree => ⟨⟨_, rfl⟩, ?_⟩
              rw [cut_eq agree, cut]
              exact ⟨_, rfl⟩
          | some kept =>
              cases cut' : inside'.output.truncate? (other.mark segment).size with
              | none =>
                  refine .crashed (.inr ⟨_, rfl⟩) fun agree => ?_
                  rw [cut_eq agree, cut] at cut'
                  cases cut'
              | some kept' =>
                  have kept_eq : same → kept' = kept := fun agree => by
                    rw [cut_eq agree, cut] at cut'
                    exact (Option.some.inj cut').symm
                  exact .leave (inner.withMarker twins kept_eq segment thing) twins added.segments
                    added'.segments
      | _ => exact .stopped inner _
  | crashed either both =>
      exact .crashed (either.imp (·.close _) (·.close _))
        fun agree => (both agree).imp (·.close _) (·.close _)

end EndAsTwins

/-- Twins that run the same script end alike. -/
theorem run_twins {same : Prop} (script : Script) {writer other : Writer}
    (twins : Twins same writer other) :
    EndAsTwins same (run script writer) (run script other) := by
  induction script generalizing writer other with
  | done => exact .finished twins
  | fail error => exact .stopped twins error
  | step first rest ih => exact ih (twins.apply first)
  | visit segment body rest bodyIh restIh =>
      have inner := bodyIh (twins.enter segment)
      have closed := inner.close twins (run_ends body (writer.enter segment))
        (run_ends body (other.enter segment))
      rw [run_visit, run_visit]
      generalize Writer.close (writer.mark segment) _ = outcome at closed ⊢
      generalize Writer.close (other.mark segment) _ = outcome' at closed ⊢
      cases closed with
      | finished between => exact restIh between
      | stopped between error => exact .stopped between error
      | crashed either both =>
          exact .crashed (either.imp (·.andThen _) (·.andThen _))
            fun agree => (both agree).imp (·.andThen _) (·.andThen _)

end AqlPipeline.Writer
