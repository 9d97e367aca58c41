import AqlPipeline.Proofs.Writer.Run

/-!
# The first parameter

Only the first parameter that is declared becomes the iteration variable.  A script that declares it
before it learns or asks anything runs as if the parameter had been known before, and once it is
known, it does not matter which other parameters are declared.
-/

namespace AqlPipeline

namespace Script

/-- A script that declares a parameter before it learns anything else about the query or asks for
it. -/
inductive Opens (parameter : Parameter) : Script → Prop where
  | declare (rest : Script) : Opens parameter (.step (.declare parameter) rest)
  /-- A step that has nothing to do with parameters. -/
  | step {first : Step} {rest : Script}
      (apart : ∀ writer : Writer, (writer.apply (.declare parameter)).apply first =
        (writer.apply first).apply (.declare parameter))
      (rests : Opens parameter rest) : Opens parameter (.step first rest)
  /-- The parameter is declared inside of a visit. -/
  | inside (segment : String) {body : Script} (rest : Script) (bodies : Opens parameter body) :
      Opens parameter (.visit segment body rest)
  /-- The parameter is declared behind a visit that only writes. -/
  | behind (segment text : String) {rest : Script} (rests : Opens parameter rest) :
      Opens parameter (.visit segment (.write text) rest)

/-- Two scripts that do the same, but for the parameters that they declare. -/
inductive Redeclares : Script → Script → Prop where
  | done : Redeclares .done .done
  | fail (error : Error) : Redeclares (.fail error) (.fail error)
  | step (first : Step) {rest rest' : Script} (rests : Redeclares rest rest') :
      Redeclares (.step first rest) (.step first rest')
  | declare (parameter parameter' : Parameter) {rest rest' : Script}
      (rests : Redeclares rest rest') :
      Redeclares (.step (.declare parameter) rest) (.step (.declare parameter') rest')
  | visit (segment : String) {body body' rest rest' : Script} (bodies : Redeclares body body')
      (rests : Redeclares rest rest') :
      Redeclares (.visit segment body rest) (.visit segment body' rest')

theorem Redeclares.refl (script : Script) : Redeclares script script := by
  induction script with
  | done => exact .done
  | fail error => exact .fail error
  | step first _ ih => exact .step first ih
  | visit segment _ _ bodyIh restIh => exact .visit segment bodyIh restIh

theorem Redeclares.enter (segment : String) {body body' : Script} (bodies : Redeclares body body') :
    Redeclares (.enter segment body) (.enter segment body') :=
  .visit segment bodies .done

theorem Opens.enter {parameter : Parameter} (segment : String) {body : Script}
    (bodies : Opens parameter body) : Opens parameter (.enter segment body) :=
  .inside segment .done bodies

end Script

/-- Whether both the collection and the iteration variable are known. -/
def Writer.IsSettled (writer : Writer) : Prop :=
  writer.facts.collection.isSome ∧ writer.facts.iterator.isSome

/-- Whether both are known at the end of a run. -/
def Outcome.IsSettled : Outcome → Prop
  | .finished writer => writer.IsSettled
  | .stopped writer _ => writer.IsSettled
  | .crashed writer => writer.IsSettled

namespace Writer

/-! ## Before the first parameter -/

theorem declare_twice (writer : Writer) (parameter : Parameter) :
    (writer.apply (.declare parameter)).apply (.declare parameter) =
      writer.apply (.declare parameter) := by
  obtain ⟨output, trail, gaps, binds, ⟨collection, iterator, projectionType⟩, skips, fallback⟩ :=
    writer
  cases collection <;> cases iterator <;> rfl

/-- The first parameter may as well be known from the start. -/
theorem run_of_opens {parameter : Parameter} {script : Script}
    (opens : script.Opens parameter) (writer : Writer) :
    run script (writer.apply (.declare parameter)) = run script writer := by
  induction opens generalizing writer with
  | declare rest => rw [run, run, declare_twice]
  | step apart _ ih => rw [run, run, apart, ih]
  | inside segment rest _ ih =>
      have entered := ih (writer.enter segment)
      rw [run_visit, run_visit, ← entered]
      rfl
  | behind segment text _ ih =>
      let written := (writer.enter segment).append text
      have kept : writer.output.size ≤ written.output.size := by
        change _ ≤ (writer.output.text ++ text).utf8ByteSize
        rw [String.utf8ByteSize_append]
        exact Nat.le_add_right _ _
      have left : close (writer.mark segment) (.finished written) =
          .finished (closed writer written) := leave_eq_closed rfl kept
      have left' : close ((writer.apply (.declare parameter)).mark segment)
          (.finished (written.apply (.declare parameter))) =
            .finished ((closed writer written).apply (.declare parameter)) :=
        leave_eq_closed rfl kept
      have written_eq : run (.write text) (writer.enter segment) = .finished written := rfl
      have written_eq' : run (.write text) ((writer.apply (.declare parameter)).enter segment) =
          .finished (written.apply (.declare parameter)) := rfl
      rw [run_visit, run_visit, written_eq, written_eq', left, left']
      exact ih _

/-! ## Behind the first parameter -/

theorem isSettled_declare (writer : Writer) (parameter : Parameter) :
    (writer.apply (.declare parameter)).IsSettled := by
  simp [IsSettled, apply, Facts.learnCollection, Facts.learnIterator]

namespace IsSettled

variable {writer : Writer}

/-- All that could be learnt from a parameter is known already. -/
theorem declare (settled : writer.IsSettled) (parameter : Parameter) :
    writer.apply (.declare parameter) = writer := by
  obtain ⟨output, trail, gaps, binds, ⟨collection, iterator, projectionType⟩, skips, fallback⟩ :=
    writer
  obtain ⟨collectionKnown, iteratorKnown⟩ := settled
  cases collection with
  | none => cases collectionKnown
  | some collection =>
      cases iterator with
      | none => cases iteratorKnown
      | some iterator => rfl

theorem apply (settled : writer.IsSettled) (step : Step) : (writer.apply step).IsSettled := by
  cases step with
  | declare parameter => exact isSettled_declare writer parameter
  | _ => exact settled

theorem leave (settled : writer.IsSettled) (mark : Mark) :
    (Writer.leave mark writer).IsSettled := by
  have left := leave_left mark writer
  generalize Writer.leave mark writer = outcome at left ⊢
  cases left <;> exact settled

end IsSettled

theorem close_isSettled {outcome : Outcome} (settled : outcome.IsSettled) (mark : Mark) :
    (close mark outcome).IsSettled := by
  cases outcome with
  | finished writer => exact IsSettled.leave settled mark
  | stopped writer error =>
      cases error with
      | notSupported thing =>
          simp only [close, recover?]
          cases writer.output.truncate? mark.size with
          | none => exact settled
          | some kept =>
              have replaced : (withMarker mark writer kept thing).IsSettled := settled
              exact replaced.leave mark
      | _ => exact settled
  | crashed writer => exact settled

/-- Once the first parameter is known, scripts that declare other ones instead of each other end in
the same way. -/
theorem run_redeclared {script other : Script} (redeclares : script.Redeclares other)
    {writer : Writer} (settled : writer.IsSettled) :
    run script writer = run other writer ∧ (run script writer).IsSettled := by
  induction redeclares generalizing writer with
  | done => exact ⟨rfl, settled⟩
  | fail error => exact ⟨rfl, settled⟩
  | step first _ ih => exact ih (settled.apply first)
  | declare parameter parameter' _ ih =>
      rw [run, run, settled.declare, settled.declare]
      exact ih settled
  | visit segment _ _ bodyIh restIh =>
      have entered : (writer.enter segment).IsSettled := settled
      obtain ⟨same, inner⟩ := bodyIh entered
      have left := close_isSettled inner (writer.mark segment)
      rw [run_visit, run_visit, ← same]
      generalize close (writer.mark segment) _ = outcome at left
      cases outcome with
      | finished middle => exact restIh left
      | stopped middle error => exact ⟨rfl, left⟩
      | crashed middle => exact ⟨rfl, left⟩

end Writer

end AqlPipeline
