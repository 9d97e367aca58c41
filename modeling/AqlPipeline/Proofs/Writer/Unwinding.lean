import AqlPipeline.Proofs.Writer.Front
import AqlPipeline.Proofs.Writer.Markers
import AqlPipeline.Proofs.Writer.Walk

/-!
# What comes behind a point of a walk

A walk ends as what is left of it tells: the rest of the innermost visit is run, the visit ends,
what follows it is run, and so on outwards.  If nothing of that fails, the compact text up to the
point stays, and the first character behind it is the first one that any of the rests writes.
Otherwise a visit around the point is replaced by its marker, with all that it has written.
-/

namespace AqlPipeline

/-! ## First characters -/

/-- The first character that a step adds to compact text, if it adds any. -/
def Step.firstChar? : Step → Option Char
  | .write text => text.toList.head?
  | .delimit delimiter => delimiter.toList.head?
  | .bindLiteral _ | .bindNamed _ _ => some '@'
  | .yieldIterator => some '\n'
  | .breakLine | .trim | .indent | .dedent | .declare _ | .project _ | .skip _ => none

/-- The first character that a script adds to compact text, if it adds any.  A part that is not
supported starts with the line break of its marker. -/
def Script.firstChar? : Script → Option Char
  | .done | .fail _ => none
  | .step first rest => first.firstChar?.or rest.firstChar?
  | .visit _ body rest =>
    (if body.failure?.any Error.isRecoverable then some '\n' else body.firstChar?).or
      rest.firstChar?

namespace Writer

variable {script : Script} {before after : Writer}

theorem apply_text (compact : before.output.pretty = false) (step : Step) :
    (before.apply step).output.text = before.output.text ++ before.added step := by
  cases step with
  | write | bindLiteral | bindNamed | yieldIterator => rfl
  | delimit delimiter => simp [apply, onOutput, Output.delimit, Output.append, added, compact]
  | breakLine => simp [apply, onOutput, Output.breakLine, added, compact]
  | trim => simp [apply, onOutput, Output.trimEnd, added, compact]
  | indent | dedent | declare | project | skip => exact String.append_empty.symm

theorem head?_added (writer : Writer) (step : Step) :
    (writer.added step).toList.head? = step.firstChar? := by
  cases step with
  | bindLiteral | bindNamed | yieldIterator =>
      rw [added, String.toList_append, List.head?_append]
      rfl
  | _ => rfl

/-- A marker is a comment on a line of its own. -/
theorem marker_eq (message : String) :
    marker message = "\n" ++ ("// NOT IMPLEMENTED: " ++ message) ++ "\n" := by
  have line : "\n// NOT IMPLEMENTED: " = "\n" ++ "// NOT IMPLEMENTED: " := rfl
  unfold marker
  rw [line]
  simp only [String.append_assoc]

theorem head?_marker (message : String) : (marker message).toList.head? = some '\n' := by
  rw [marker_eq, String.append_assoc, String.toList_append]
  rfl

/-- A run adds text with the first character that its script tells. -/
theorem Leads.adds (leads : Leads script before after) (compact : before.output.pretty = false) :
    ∃ more, after.output.text = before.output.text ++ more ∧
      more.toList.head? = script.firstChar? := by
  induction leads with
  | done writer => exact ⟨"", by simp, rfl⟩
  | fail _ writer => exact ⟨"", by simp, rfl⟩
  | @step first rest before after _ ih =>
      obtain ⟨more, text_eq, more_head⟩ := ih ((extends_apply before first).pretty.trans compact)
      refine ⟨before.added first ++ more, ?_, ?_⟩
      · rw [text_eq, apply_text compact, String.append_assoc]
      · rw [String.toList_append, List.head?_append, head?_added, more_head, Script.firstChar?]
  | @visit segment body rest before inside left after bodies leaves _ bodyIh restIh =>
      have extended := leaves.extended bodies.extended
      obtain ⟨more, text_eq, more_head⟩ := restIh (extended.pretty.trans compact)
      obtain ⟨own, left_eq, own_head⟩ : ∃ own, left.output.text = before.output.text ++ own ∧
          own.toList.head? =
            if body.failure?.any Error.isRecoverable then some '\n' else body.firstChar? := by
        obtain ⟨inner, inside_eq, inner_head⟩ := bodyIh compact
        cases leaves with
        | all ends =>
            rw [ends]
            exact ⟨inner, inside_eq, inner_head⟩
        | marker fails recovered =>
            rw [fails]
            exact ⟨_, recover_text bodies.extended compact recovered, head?_marker _⟩
      refine ⟨own ++ more, ?_, ?_⟩
      · rw [text_eq, ← String.append_assoc, ← left_eq]
        rfl
      · rw [String.toList_append, List.head?_append, own_head, more_head, Script.firstChar?]

/-- In compact text, a script that does not fail is run to its end. -/
theorem finished_of_failure? (compact : before.output.pretty = false)
    (ends : script.failure? = none) : ∃ after, run script before = .finished after := by
  have ended := run_ends script before
  cases ran : run script before with
  | finished after => exact ⟨after, rfl⟩
  | stopped after error =>
      rw [ran] at ended
      cases error with
      | notSupported thing => cases ends.symm.trans ended.1
      | _ => cases ends.symm.trans ended
  | crashed after => exact absurd ⟨after, ran⟩ (not_hasCrashed compact script)

/-- Any other one is run to its failure. -/
theorem stopped_of_failure? {error : Error} (compact : before.output.pretty = false)
    (fails : script.failure? = some error) : ∃ after, run script before = .stopped after error := by
  have ended := run_ends script before
  cases ran : run script before with
  | finished after =>
      rw [ran] at ended
      cases fails.symm.trans ended.1
  | stopped after other =>
      rw [ran] at ended
      cases other with
      | notSupported thing =>
          cases fails.symm.trans ended.1
          exact ⟨after, rfl⟩
      | _ =>
          cases fails.symm.trans ended
          exact ⟨after, rfl⟩
  | crashed after => exact absurd ⟨after, ran⟩ (not_hasCrashed compact script)

end Writer

/-! ## Visits that have begun -/

namespace Walk

/-- How a run ends behind the visits around it, given how it ends inside of them. -/
def unwind : List Frame → Outcome → Outcome
  | [], outcome => outcome
  | frame :: frames, outcome =>
    unwind frames ((Writer.close frame.mark outcome).andThen (Writer.run frame.rest))

/-- How a walk ends. -/
def outcome (walk : Walk) : Outcome :=
  unwind walk.frames (Writer.run walk.script walk.writer)

theorem Step.outcome_eq {walk next : Walk} (step : Step walk next) :
    walk.outcome = next.outcome := by
  cases step with
  | take => rfl
  | begin segment body rest frames writer =>
      exact congrArg (unwind frames) (Writer.run_visit segment body rest writer)
  | replace frame frames recovered =>
      simp only [outcome, unwind, Writer.run, Writer.close, recovered]
  | finish frame frames left =>
      simp only [outcome, unwind, Writer.run, Writer.close, left, Outcome.andThen]

/-- All points of a walk end alike. -/
theorem Reaches.outcome_eq {walk next : Walk} (reached : Reaches walk next) :
    walk.outcome = next.outcome := by
  induction reached with
  | refl => rfl
  | tail _ step ih => exact ih.trans step.outcome_eq

/-- A fatal error goes through all visits. -/
theorem unwind_stopped {error : Error} (fatal : error.isRecoverable = false)
    (frames : List Frame) (writer : Writer) :
    unwind frames (.stopped writer error) = .stopped writer error := by
  induction frames with
  | nil => rfl
  | cons frame frames ih =>
      cases error with
      | notSupported thing => cases fatal
      | _ => exact ih

/-- So does a crash. -/
theorem unwind_crashed (frames : List Frame) (writer : Writer) :
    unwind frames (.crashed writer) = .crashed writer := by
  induction frames with
  | nil => rfl
  | cons frame frames ih => exact ih

/-- A visit from which a walk comes to its end can be left. -/
theorem exists_left {mark : Writer.Mark} {rest : Script} {frames : List Frame}
    {writer last : Writer}
    (ended : unwind frames ((Writer.leave mark writer).andThen (Writer.run rest)) =
      .finished last) :
    ∃ behind, behind.output = writer.output ∧
      unwind frames (Writer.run rest behind) = .finished last := by
  have output_eq := Writer.leave_output mark writer
  have supported := Writer.close_ne_notSupported mark (.finished writer)
  rw [Writer.close] at supported
  cases left : Writer.leave mark writer with
  | finished behind =>
      rw [left] at ended output_eq
      exact ⟨behind, output_eq, ended⟩
  | stopped behind error =>
      have fatal : error.isRecoverable = false := by
        cases error with
        | notSupported thing => exact absurd left (supported behind thing)
        | _ => rfl
      rw [left, Outcome.andThen, unwind_stopped fatal] at ended
      cases ended
  | crashed behind =>
      rw [left, Outcome.andThen, unwind_crashed] at ended
      cases ended

/-! ## Text that stays -/

/-- What is left of a walk: the rest of the innermost visit, and what follows it and the visits
around it. -/
def remaining (walk : Walk) : List Script :=
  walk.script :: walk.frames.map Frame.rest

/-- Whether nothing that is left of a walk fails, so that no visit that has begun is replaced. -/
def Stays (walk : Walk) : Prop :=
  ∀ script ∈ walk.remaining, script.failure? = none

/-- A writer adds what is left, the first character being the first of all that is left. -/
theorem adds_of_unwind {script : Script} {frames : List Frame} {writer last : Writer}
    (compact : writer.output.pretty = false) (stays : Stays ⟨script, frames, writer⟩)
    (ended : unwind frames (Writer.run script writer) = .finished last) :
    ∃ more, last.output.text = writer.output.text ++ more ∧
      more.toList.head? = (remaining ⟨script, frames, writer⟩).findSome? Script.firstChar? := by
  -- from the inside out: what is left of a visit, then what follows it
  induction frames generalizing script writer with
  | nil =>
      have leads := (Writer.leads_of_run script writer).1 last ended
      obtain ⟨more, text_eq, more_head⟩ := leads.adds compact
      exact ⟨more, text_eq, by simp [remaining, more_head]⟩
  | cons frame frames ih =>
      obtain ⟨own, others⟩ := List.forall_mem_cons.mp stays
      obtain ⟨after, ran⟩ := Writer.finished_of_failure? compact own
      have leads := (Writer.leads_of_run script writer).1 after ran
      obtain ⟨more, text_eq, more_head⟩ := leads.adds compact
      rw [ran, unwind, Writer.close] at ended
      obtain ⟨behind, output_eq, ended⟩ := exists_left ended
      obtain ⟨rest, rest_eq, rest_head⟩ :=
        ih ((congrArg Output.pretty output_eq).trans (leads.extended.pretty.trans compact)) others
          ended
      refine ⟨more ++ rest, ?_, ?_⟩
      · rw [rest_eq, output_eq, text_eq, String.append_assoc]
      · have first_of_all : ∀ others : List Script,
            (script :: others).findSome? Script.firstChar? =
              script.firstChar?.or (others.findSome? Script.firstChar?) := by
          intro others
          rw [List.findSome?_cons]
          cases script.firstChar? <;> rfl
        rw [String.toList_append, List.head?_append, more_head, rest_head]
        exact (first_of_all _).symm

/-- What is left behind a visit adds to what the visit has left. -/
theorem adds_of_visit {segment : String} {body rest : Script} {frames : List Frame}
    {before after last : Writer} (compact : before.output.pretty = false)
    (ran : Writer.run (.enter segment body) before = .finished after)
    (stays : Stays ⟨rest, frames, before⟩)
    (ended : unwind frames (Writer.run (.visit segment body rest) before) = .finished last) :
    ∃ more, last.output.text = after.output.text ++ more ∧
      more.toList.head? = (remaining ⟨rest, frames, before⟩).findSome? Script.firstChar? := by
  have extended := ((Writer.leads_of_run (.enter segment body) before).1 after ran).extended
  rw [Writer.run_enter] at ran
  rw [Writer.run_visit, ran] at ended
  exact adds_of_unwind (extended.pretty.trans compact) stays ended

/-- Nothing fails behind a visit if nothing fails from the visit on. -/
theorem Stays.behind {segment : String} {body rest : Script} {frames : List Frame}
    {writer : Writer} (stays : Stays ⟨.visit segment body rest, frames, writer⟩) :
    Stays ⟨rest, frames, writer⟩ := by
  obtain ⟨own, others⟩ := List.forall_mem_cons.mp stays
  refine List.forall_mem_cons.mpr ⟨?_, others⟩
  simp only [Script.failure?] at own
  split at own
  · exact own
  · exact own
  · cases own

/-! ## Text that is cut out -/

/-- Whether each visit that has begun did so at a beginning of the text, and the visits around it at
beginnings of that. -/
def Stacked : List Frame → String → Prop
  | [], _ => True
  | frame :: frames, text =>
    ∃ front more, text = front ++ more ∧ front.utf8ByteSize = frame.mark.size ∧
      Stacked frames front

theorem Stacked.append {frames : List Frame} {text : String} (stacked : Stacked frames text)
    (added : String) : Stacked frames (text ++ added) := by
  cases frames with
  | nil => trivial
  | cons frame frames =>
      obtain ⟨front, more, rfl, size_eq, outer⟩ := stacked
      exact ⟨front, more ++ added, String.append_assoc .., size_eq, outer⟩

/-- A walk that writes compact text, with its visits stacked on it. -/
structure Layered (walk : Walk) : Prop where
  /-- The text is compact. -/
  compact : walk.writer.output.pretty = false
  /-- The visits are stacked. -/
  stacked : Stacked walk.frames walk.writer.output.text

theorem Step.layered {walk next : Walk} (step : Step walk next) (layered : walk.Layered) :
    next.Layered := by
  obtain ⟨compact, stacked⟩ := layered
  cases step with
  | take first rest frames writer =>
      have extended := Writer.extends_apply writer first
      obtain ⟨more, text_eq⟩ := extended.text compact
      refine ⟨extended.pretty.trans compact, ?_⟩
      change Stacked frames (writer.apply first).output.text
      exact text_eq ▸ stacked.append more
  | begin segment body rest frames writer =>
      exact ⟨compact, writer.output.text, "", String.append_empty.symm, rfl, stacked⟩
  | replace frame frames recovered =>
      obtain ⟨front, more, text_eq, size_eq, outer⟩ := stacked
      rw [Writer.recover?_of_size text_eq size_eq] at recovered
      cases recovered
      exact ⟨compact, front, _, rfl, size_eq, outer⟩
  | @finish frame frames writer after left =>
      have output_eq : after.output = writer.output := by
        simpa [left, Outcome.writer] using Writer.leave_output frame.mark writer
      obtain ⟨front, more, text_eq, -, outer⟩ := stacked
      refine ⟨(congrArg Output.pretty output_eq).trans compact, ?_⟩
      change Stacked frames after.output.text
      rw [output_eq]
      exact text_eq ▸ outer.append more

theorem Reaches.layered {walk next : Walk} (reached : Reaches walk next)
    (layered : walk.Layered) : next.Layered := by
  induction reached with
  | refl => exact layered
  | tail _ step ih => exact step.layered ih

/-- Whether all that was written since one of some visits began, while the text had come to `text`,
is replaced by the marker of that visit in the text at last. -/
def CutOut (frames : List Frame) (text last : String) : Prop :=
  ∃ frame ∈ frames, ∃ front more message back, text = front ++ more ∧
    front.utf8ByteSize = frame.mark.size ∧ last = front ++ Writer.marker message ++ back

theorem CutOut.around {frame : Frame} {frames : List Frame} {front last : String}
    (cut : CutOut frames front last) (more : String) :
    CutOut (frame :: frames) (front ++ more) last := by
  obtain ⟨outer, member, start, rest, message, back, rfl, size_eq, last_eq⟩ := cut
  exact ⟨outer, List.mem_cons_of_mem _ member, start, rest ++ more, message, back,
    String.append_assoc .., size_eq, last_eq⟩

/-- If something that is left fails, then a visit that has begun is replaced. -/
theorem cutOut_of_unwind {script : Script} {frames : List Frame} {writer last : Writer}
    {text more : String} (compact : writer.output.pretty = false) (stacked : Stacked frames text)
    (text_eq : writer.output.text = text ++ more) (leaves : ¬ Stays ⟨script, frames, writer⟩)
    (ended : unwind frames (Writer.run script writer) = .finished last) :
    CutOut frames text last.output.text := by
  -- From the inside out.  What a visit has written may be cut off with the visit, so only the text
  -- from before it is looked at behind it.
  induction frames generalizing script writer text more with
  | nil =>
      have ends := Writer.run_ends script writer
      rw [unwind] at ended
      rw [ended] at ends
      refine absurd ?_ leaves
      intro other member
      rw [List.mem_singleton.mp member]
      exact ends.1
  | cons frame frames ih =>
      obtain ⟨front, middle, rfl, size_eq, outer⟩ := stacked
      obtain ⟨finishes, stops⟩ := Writer.leads_of_run script writer
      have ends := Writer.run_ends script writer
      rw [unwind] at ended
      cases ran : Writer.run script writer with
      | finished after =>
          rw [ran] at ended ends
          have extended := (finishes after ran).extended
          obtain ⟨added, after_eq⟩ := extended.text compact
          obtain ⟨behind, output_eq, ended⟩ := exists_left ended
          have later : ¬ Stays ⟨frame.rest, frames, behind⟩ :=
            fun stays => leaves (List.forall_mem_cons.mpr ⟨ends.1, stays⟩)
          have behind_compact : behind.output.pretty = false :=
            (congrArg Output.pretty output_eq).trans (extended.pretty.trans compact)
          have behind_eq : behind.output.text = front ++ (middle ++ more ++ added) := by
            rw [output_eq, after_eq, text_eq]
            simp only [String.append_assoc]
          exact (ih behind_compact outer behind_eq later ended).around middle
      | stopped after error =>
          rw [ran] at ended
          cases error with
          | notSupported thing =>
              have extended := (stops after thing ran).extended
              obtain ⟨added, after_eq⟩ := extended.text compact
              have cut : after.output.text = front ++ (middle ++ more ++ added) := by
                rw [after_eq, text_eq]
                simp only [String.append_assoc]
              simp only [Writer.close, Writer.recover?_of_size cut size_eq thing] at ended
              obtain ⟨behind, output_eq, ended⟩ := exists_left ended
              have behind_eq : behind.output.text =
                  front ++ Writer.marker (Writer.oneLine thing) := by rw [output_eq]; rfl
              have behind_compact : behind.output.pretty = false := by
                rw [output_eq]
                exact extended.pretty.trans compact
              -- the marker of this visit stays, unless a visit around it is replaced as well
              by_cases stays : Stays ⟨frame.rest, frames, behind⟩
              · obtain ⟨back, last_eq, -⟩ := adds_of_unwind behind_compact stays ended
                exact ⟨frame, List.mem_cons_self, front, middle, _, back, rfl, size_eq,
                  by rw [last_eq, behind_eq]⟩
              · exact (ih behind_compact outer behind_eq stays ended).around middle
          | _ => cases (unwind_stopped rfl (frame :: frames) after).symm.trans ended
      | crashed after => exact absurd ⟨after, ran⟩ (Writer.not_hasCrashed compact script)

end Walk

end AqlPipeline
