import AqlPipeline.Proofs.Writer.Run

/-!
# Runs at other places of the tree

Where in the tree a part is visited is told by spans and by the paths of gaps, and by nothing else.
So a script that is moved to other places, its failures included, does the same as before: it ends
in the same way, with the same text and bind variables and the same knowledge about the query.
-/

namespace AqlPipeline

/-! ## Scripts -/

/-- Two scripts that do the same, each of them with segments of its own. -/
inductive Script.Moved : Script → Script → Prop where
  | done : Moved .done .done
  | fail (error : Error) : Moved (.fail error) (.fail error)
  | step (first : Step) {rest rest' : Script} (rests : Moved rest rest') :
      Moved (.step first rest) (.step first rest')
  | visit (segment segment' : String) {body body' rest rest' : Script} (bodies : Moved body body')
      (rests : Moved rest rest') :
      Moved (.visit segment body rest) (.visit segment' body' rest')

namespace Script.Moved

theorem refl (script : Script) : Moved script script := by
  induction script with
  | done => exact .done
  | fail error => exact .fail error
  | step first rest ih => exact .step first ih
  | visit segment body rest bodyIh restIh => exact .visit segment segment bodyIh restIh

/-- A part may be visited at another segment. -/
theorem enter (segment segment' : String) (body : Script) :
    Moved (.enter segment body) (.enter segment' body) :=
  .visit segment segment' (refl body) .done

theorem append {first first' second second' : Script} (firsts : Moved first first')
    (seconds : Moved second second') : Moved (first ++ second) (first' ++ second') := by
  induction firsts with
  | done => exact seconds
  | fail error => exact .fail error
  | step first _ ih => exact .step first ih
  | visit segment segment' bodies _ _ ih => exact .visit segment segment' bodies ih

/-- The items of a sequence may be counted in another way. -/
theorem join_visits (delimiter : Script) (base base' : String) (index index' : Nat)
    (bodies : List Script) :
    Moved (join delimiter (visits base index bodies))
      (join delimiter (visits base' index' bodies)) := by
  induction bodies generalizing index index' with
  | nil => exact .done
  | cons body bodies ih =>
      cases bodies with
      | nil => exact enter _ _ body
      | cons next bodies =>
          exact ((enter _ _ body).append (refl delimiter)).append (ih (index + 1) (index' + 1))

end Script.Moved

/-! ## Writers -/

/-- Two writers that have written and learnt the same, be it at other places of the tree. -/
structure Writer.Concur (writer other : Writer) : Prop where
  /-- They have the same text, at the same level of indentation. -/
  output : other.output = writer.output
  /-- They have bound the same variables. -/
  binds : other.binds = writer.binds
  /-- They know the same about the query. -/
  facts : other.facts = writer.facts
  /-- They leave out the same numbers of rows. -/
  skips : other.skips = writer.skips
  /-- They fall back to the same iteration variable. -/
  defaultIterator : other.defaultIterator = writer.defaultIterator
  /-- They have replaced parts for the same reasons, in the same order. -/
  messages : other.gaps.map Gap.message = writer.gaps.map Gap.message

/-- Two ways to end that are the same, with writers that agree. -/
inductive Outcome.Concur : Outcome → Outcome → Prop where
  | finished {writer other : Writer} (writers : Writer.Concur writer other) :
      Concur (.finished writer) (.finished other)
  | stopped {writer other : Writer} (writers : Writer.Concur writer other) (error : Error) :
      Concur (.stopped writer error) (.stopped other error)
  | crashed {writer other : Writer} (writers : Writer.Concur writer other) :
      Concur (.crashed writer) (.crashed other)

namespace Writer.Concur

variable {writer other : Writer}

theorem refl (writer : Writer) : Concur writer writer :=
  ⟨rfl, rfl, rfl, rfl, rfl, rfl⟩

theorem eq (agree : Concur writer other) :
    other = { writer with trail := other.trail, gaps := other.gaps } := by
  obtain ⟨output, binds, facts, skips, defaultIterator, -⟩ := agree
  rw [← output, ← binds, ← facts, ← skips, ← defaultIterator]

/-- A step looks neither at the position nor at the gaps. -/
theorem apply (agree : Concur writer other) (step : Step) :
    Concur (writer.apply step) (other.apply step) := by
  have messages := agree.messages
  rw [agree.eq]
  generalize other.trail = trail
  generalize other.gaps = gaps at messages
  cases step <;> exact ⟨rfl, rfl, rfl, rfl, rfl, messages⟩

theorem enter (agree : Concur writer other) (segment segment' : String) :
    Concur (writer.enter segment) (other.enter segment') :=
  ⟨agree.output, agree.binds, agree.facts, agree.skips, agree.defaultIterator, agree.messages⟩

/-- What has been written since a visit began is replaced by the same marker. -/
theorem withMarker {inside inside' : Writer} (inner : Concur inside inside')
    (agree : Concur writer other) (segment segment' : String) (kept : Output) (thing : String) :
    Concur (withMarker (writer.mark segment) inside kept thing)
      (withMarker (other.mark segment') inside' kept thing) where
  output := by simp only [Writer.withMarker, mark, agree.output]
  binds := inner.binds
  facts := inner.facts
  skips := by simp only [Writer.withMarker, mark, inner.skips, agree.skips]
  defaultIterator := inner.defaultIterator
  messages := by simp only [Writer.withMarker, List.map_append, List.map_cons, inner.messages]

/-- Visits with the same text are left alike, or both crash. -/
theorem leave {inside inside' : Writer} (inner : Concur inside inside')
    (agree : Concur writer other) {segment segment' : String}
    (balanced : inside.trail.segments = (writer.enter segment).trail.segments)
    (balanced' : inside'.trail.segments = (other.enter segment').trail.segments) :
    Outcome.Concur (leave (writer.mark segment) inside) (leave (other.mark segment') inside') := by
  rw [leave_eq balanced, leave_eq balanced', inner.output, agree.output]
  split
  · exact .crashed inner
  · exact .finished ⟨inner.output, inner.binds, inner.facts, inner.skips, inner.defaultIterator,
      inner.messages⟩

end Writer.Concur

/-! ## Runs -/

/-- Visits whose insides agree are left in agreement. -/
theorem Outcome.Concur.close {writer other : Writer} (writers : Writer.Concur writer other)
    {segment segment' : String} {body body' : Script} {outcome outcome' : Outcome}
    (ends : Writer.Ends body (writer.enter segment) outcome)
    (ends' : Writer.Ends body' (other.enter segment') outcome') (inner : Concur outcome outcome') :
    Concur (Writer.close (writer.mark segment) outcome)
      (Writer.close (other.mark segment') outcome') := by
  cases inner with
  | finished inner =>
      obtain ⟨-, added, -⟩ := ends
      obtain ⟨-, added', -⟩ := ends'
      exact inner.leave writers added.segments added'.segments
  | @stopped inside inside' inner error =>
      cases error with
      | notSupported thing =>
          obtain ⟨-, added, -⟩ := ends
          obtain ⟨-, added', -⟩ := ends'
          have cut_eq : inside'.output.truncate? (other.mark segment').size =
              inside.output.truncate? (writer.mark segment).size := by
            simp only [inner.output, Writer.mark, writers.output]
          simp only [Writer.close, Writer.recover?, cut_eq]
          cases inside.output.truncate? (writer.mark segment).size with
          | none => exact .crashed inner
          | some kept =>
              exact (inner.withMarker writers segment segment' kept thing).leave writers
                added.segments added'.segments
      | _ => exact .stopped inner _
  | crashed inner => exact .crashed inner

/-- A moved script, run by a writer that agrees, ends in agreement. -/
theorem Script.Moved.run {script script' : Script} (moved : Moved script script')
    {writer other : Writer} (writers : Writer.Concur writer other) :
    Outcome.Concur (Writer.run script writer) (Writer.run script' other) := by
  induction moved generalizing writer other with
  | done => exact .finished writers
  | fail error => exact .stopped writers error
  | step first _ ih => exact ih (writers.apply first)
  | @visit segment segment' body body' rest rest' _ _ bodyIh restIh =>
      have inner := bodyIh (writers.enter segment segment')
      have closed := inner.close writers (Writer.run_ends body (writer.enter segment))
        (Writer.run_ends body' (other.enter segment'))
      rw [Writer.run, Writer.run]
      generalize Writer.close (writer.mark segment) _ = outcome at closed ⊢
      generalize Writer.close (other.mark segment') _ = outcome' at closed ⊢
      cases closed with
      | finished between => exact restIh between
      | stopped between error => exact .stopped between error
      | crashed between => exact .crashed between

end AqlPipeline
