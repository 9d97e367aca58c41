import AqlPipeline.Proofs.Script.Visited

/-!
# The visits of a run

Which parts of an expression a run visits is told by its script: one that does not fail by itself
makes all its visits, each of them once and in order, unless one of them stops the run for good.
-/

namespace AqlPipeline

namespace Script

/-- A script that does not fail by itself, and its visits in order: the segment of each of them, and
what is done there. -/
inductive Makes : Script → List (String × Script) → Prop where
  | done : Makes .done []
  | step (first : Step) {rest : Script} {visits : List (String × Script)}
      (rests : Makes rest visits) : Makes (.step first rest) visits
  | visit (segment : String) (body : Script) {rest : Script} {visits : List (String × Script)}
      (rests : Makes rest visits) : Makes (.visit segment body rest) ((segment, body) :: visits)

/-- The visits of the items of a sequence, numbered from `index` on. -/
def numberedVisits (base : String) (index : Nat) : List Script → List (String × Script)
  | [] => []
  | body :: bodies => (numbered base index, body) :: numberedVisits base (index + 1) bodies

theorem exists_number_of_mem {base : String} {index : Nat} {bodies : List Script}
    {visit : String × Script} (member : visit ∈ numberedVisits base index bodies) :
    ∃ number, visit.1 = numbered base number := by
  induction bodies generalizing index with
  | nil => cases member
  | cons body bodies ih =>
      rcases List.mem_cons.mp member with rfl | later
      · exact ⟨index, rfl⟩
      · exact ih later

theorem mem_bodies_of_mem {base : String} {index : Nat} {bodies : List Script}
    {visit : String × Script} (member : visit ∈ numberedVisits base index bodies) :
    visit.2 ∈ bodies := by
  induction bodies generalizing index with
  | nil => cases member
  | cons body bodies ih =>
      rcases List.mem_cons.mp member with rfl | later
      · exact List.mem_cons_self
      · exact List.mem_cons_of_mem _ (ih later)

namespace Makes

theorem write (text : String) : Makes (.write text) [] :=
  .step _ .done

theorem enter (segment : String) (body : Script) : Makes (.enter segment body) [(segment, body)] :=
  .visit segment body .done

theorem append {first second : Script} {visits more : List (String × Script)}
    (firsts : Makes first visits) (seconds : Makes second more) :
    Makes (first ++ second) (visits ++ more) := by
  induction firsts with
  | done => exact seconds
  | step first _ ih => exact .step first ih
  | visit segment body _ ih => exact .visit segment body ih

/-- A text behind a script is not visited. -/
theorem append_write {first : Script} {visits : List (String × Script)}
    (firsts : Makes first visits) (text : String) : Makes (first ++ .write text) visits := by
  simpa using firsts.append (.write text)

/-- The items of a sequence are visited one after the other, with the same around each visit. -/
theorem join_around {delimiter : Script} (delimiters : Makes delimiter [])
    {around : Script → Script}
    (arounds : ∀ segment body, Makes (around (.enter segment body)) [(segment, body)])
    (base : String) (index : Nat) (bodies : List Script) :
    Makes (join delimiter ((visits base index bodies).map around))
      (numberedVisits base index bodies) := by
  induction bodies generalizing index with
  | nil => exact .done
  | cons body bodies ih =>
      cases bodies with
      | nil => exact arounds _ body
      | cons next bodies => exact ((arounds _ body).append delimiters).append (ih (index + 1))

/-- The items of a sequence are visited one after the other. -/
theorem join_visits {delimiter : Script} (delimiters : Makes delimiter []) (base : String)
    (index : Nat) (bodies : List Script) :
    Makes (join delimiter (visits base index bodies)) (numberedVisits base index bodies) := by
  have plain : ∀ segment body, Makes (id (.enter segment body)) [(segment, body)] := enter
  simpa using join_around delimiters plain base index bodies

theorem inLine (base delimiter : String) (bodies : List Script) :
    Makes (Script.inLine base delimiter bodies) (numberedVisits base 0 bodies) :=
  join_visits (.write delimiter) base 0 bodies

/-- A script that does not fail by itself is not replaced by a marker. -/
theorem not_isReplaced {script : Script} {visits : List (String × Script)}
    (makes : Makes script visits) : ¬ script.IsReplaced := by
  rintro ⟨thing, fails⟩
  induction makes with
  | done => cases fails
  | step _ _ ih => exact ih fails
  | visit segment body _ ih =>
      rw [failure?] at fails
      split at fails
      · exact ih fails
      · exact ih fails
      · rename_i error supported _
        cases fails
        exact supported thing rfl

theorem visited_eq {script : Script} {visits : List (String × Script)}
    (makes : Makes script visits) : script.visited = visits := by
  induction makes with
  | done => rfl
  | step _ _ ih => exact ih
  | visit segment body _ ih => exact congrArg _ ih

end Makes

end Script

namespace Writer

/-- The visits that a run makes itself, in order, up to where it stops: the segment of each of them,
and what is done there. -/
def visitsMade : Script → Writer → List (String × Script)
  | .done, _ | .fail _, _ => []
  | .step first rest, writer => visitsMade rest (writer.apply first)
  | .visit segment body rest, writer =>
    (segment, body) ::
      match close (writer.mark segment) (run body (writer.enter segment)) with
      | .finished writer => visitsMade rest writer
      | .stopped _ _ | .crashed _ => []

/-- A run that comes to its end has made all visits of its script. -/
theorem visitsMade_eq {script : Script} {visits : List (String × Script)}
    (makes : script.Makes visits) {writer after : Writer}
    (finished : run script writer = .finished after) : visitsMade script writer = visits := by
  induction makes generalizing writer with
  | done => rfl
  | step first _ ih => exact ih finished
  | visit segment body _ ih =>
      rw [run] at finished
      rw [visitsMade]
      generalize close (writer.mark segment) _ = outcome at finished ⊢
      cases outcome with
      | finished middle => exact congrArg _ (ih finished)
      | stopped middle error | crashed middle => cases finished

end Writer

end AqlPipeline
