import AqlPipeline.Proofs.Script.Uniform
import AqlPipeline.Proofs.Writer.Run

/-!
# Runs of scripts that differ in a name

Scripts that differ in a name end in the same way.  In compact text, what they write is worded in
the same way too: pieces of text, with the name and the iteration variable between them.
-/

namespace AqlPipeline

/-! ## Wordings -/

/-- A piece of a text in which names are left open. -/
inductive Piece where
  /-- Text. -/
  | text (words : String)
  /-- The name of the parameter at hand. -/
  | own
  /-- The iteration variable. -/
  | iterator
  deriving DecidableEq, Repr

namespace Piece

/-- A piece with the names filled in. -/
def spell (own iterator : String) : Piece → String
  | .text words => words
  | .own => own
  | .iterator => iterator

/-- A wording with the names filled in. -/
def spellAll (own iterator : String) (wording : List Piece) : String :=
  String.join (wording.map (spell own iterator))

@[simp] theorem spellAll_nil (own iterator : String) : spellAll own iterator [] = "" := rfl

@[simp] theorem spellAll_cons (own iterator : String) (piece : Piece) (wording : List Piece) :
    spellAll own iterator (piece :: wording) =
      piece.spell own iterator ++ spellAll own iterator wording := by
  simp [spellAll, String.join_cons]

theorem spellAll_append (own iterator : String) (wording more : List Piece) :
    spellAll own iterator (wording ++ more) =
      spellAll own iterator wording ++ spellAll own iterator more := by
  simp [spellAll, String.join_append]

end Piece

/-- The end of a run: at the error, if there is one. -/
def Outcome.ending (failure : Option Error) (writer : Writer) : Outcome :=
  match failure with
  | none => .finished writer
  | some error => .stopped writer error

namespace Writer

/-- A writer with another text, other spans and another iteration variable. -/
def worded (base : Writer) (text : String) (spans : Option (List (String × Span)))
    (iterator : String) : Writer :=
  { base with
    output := { base.output with text }
    trail := { base.trail with spans }
    facts := { base.facts with iterator := some iterator } }

/-- The writer behind a visit that began at one writer and has stopped at another one, but for its
text and spans. -/
def replacing (before stopped : Writer) (thing : String) : Writer :=
  { stopped with
    output := { stopped.output with indentation := before.output.indentation }
    trail := before.trail
    gaps := stopped.gaps ++ [⟨stopped.trail.path, oneLine thing⟩]
    skips := stopped.skips.take before.skips.length }

/-- Scripts for some names run alike: from writers that differ in text, spans and iteration variable
only, they come to such writers again, and add to the text what is told for each of them. -/
def Adds {Naming : Type} (script : Naming → Script) (iterator : Naming → String)
    (base : Writer) (failure : Option Error) (after : Writer) (more : Naming → String) : Prop :=
  ∀ (names : Naming) (text : String) (spans : Option (List (String × Span))),
    ∃ spans', run (script names) (base.worded text spans (iterator names)) =
      .ending failure (after.worded (text ++ more names) spans' (iterator names))

/-! ## Single steps -/

/-- What a step adds to a compact text does not depend on the text before it, and on the iteration
variable only if it is returned. -/
theorem apply_worded {base : Writer} (compact : base.output.pretty = false) (step : Step) :
    ∃ wording, ∀ text spans own iterator,
      (base.worded text spans iterator).apply step =
        (base.apply step).worded (text ++ Piece.spellAll own iterator wording) spans iterator := by
  cases step with
  | write words =>
      exact ⟨[.text words], by
        simp [apply, append, onOutput, Output.append, worded, Piece.spell]⟩
  | delimit delimiter =>
      exact ⟨[.text delimiter], by
        simp [apply, onOutput, Output.delimit, compact, Output.append, worded, Piece.spell]⟩
  | breakLine => exact ⟨[], by simp [apply, onOutput, Output.breakLine, compact, worded]⟩
  | trim => exact ⟨[], by simp [apply, onOutput, Output.trimEnd, compact, worded]⟩
  | bindLiteral value =>
      exact ⟨[.text ("@" ++ (base.binds.register literalName value).1)], by
        simp [apply, bindLiteral, append, onOutput, Output.append, worded, Piece.spell]⟩
  | bindNamed name value =>
      exact ⟨[.text ("@" ++ (base.binds.registerNamed name value).1)], by
        simp [apply, bindNamed, append, onOutput, Output.append, worded, Piece.spell]⟩
  | yieldIterator =>
      exact ⟨[.text "\nRETURN ", .iterator], by
        simp [apply, append, onOutput, Output.append, worded, Piece.spell, Writer.iterator]⟩
  | indent => exact ⟨[], by simp [apply, onOutput, Output.indent, worded]⟩
  | dedent => exact ⟨[], by simp [apply, onOutput, Output.dedent, worded]⟩
  | declare parameter =>
      exact ⟨[], by simp [apply, Facts.learnCollection, Facts.learnIterator, worded]⟩
  | project typeName => exact ⟨[], by simp [apply, Facts.learnProjection, worded]⟩
  | skip count => exact ⟨[], by simp [apply, worded]⟩

theorem enter_worded (base : Writer) (segment text : String)
    (spans : Option (List (String × Span))) (iterator : String) :
    (base.worded text spans iterator).enter segment =
      (base.enter segment).worded text spans iterator := by
  simp only [enter, worded, Trail.push]
  split <;> rfl

namespace Adds

variable {Naming : Type} {iterator : Naming → String} {base middle inside after : Writer}
  {failure : Option Error} {more later : Naming → String} {script next : Naming → Script}

theorem step {first : Naming → Step}
    (applied : ∀ names text spans, (base.worded text spans (iterator names)).apply (first names) =
      middle.worded (text ++ more names) spans (iterator names))
    (rests : Adds next iterator middle failure after later) :
    Adds (fun names => .step (first names) (next names)) iterator base failure after
      fun names => more names ++ later names := by
  intro names text spans
  obtain ⟨spans', ran⟩ := rests names (text ++ more names) spans
  exact ⟨spans', by rw [run, applied, ran, String.append_assoc]⟩

theorem append (firsts : Adds script iterator base none middle more)
    (seconds : Adds next iterator middle failure after later) :
    Adds (fun names => script names ++ next names) iterator base failure after
      fun names => more names ++ later names := by
  intro names text spans
  obtain ⟨between, first⟩ := firsts names text spans
  obtain ⟨spans', second⟩ := seconds names (text ++ more names) between
  refine ⟨spans', ?_⟩
  rw [run_append, first]
  change run (next names) _ = _
  rw [second, String.append_assoc]

theorem append_stopped {error : Error} (firsts : Adds script iterator base (some error) after more)
    (next : Naming → Script) :
    Adds (fun names => script names ++ next names) iterator base (some error) after more := by
  intro names text spans
  obtain ⟨spans', first⟩ := firsts names text spans
  exact ⟨spans', by rw [run_append, first]; rfl⟩

/-! ## Visits -/

/-- A visit that comes to its end leaves what has been added inside of it. -/
theorem enter {segment : String} (compact : base.output.pretty = false)
    (inner : Adds script iterator (base.enter segment) none inside more) :
    Adds (fun names => .enter segment (script names)) iterator base none
      { inside with trail := base.trail } more := by
  intro names text spans
  obtain ⟨spans', ran⟩ := inner names text spans
  rw [← enter_worded] at ran
  let before := base.worded text spans (iterator names)
  let inside' := inside.worded (text ++ more names) spans' (iterator names)
  have layout : before.output.pretty = false := compact
  exact ⟨(closed before inside').trail.spans, run_enter_of_finished layout ran⟩

/-- A visit that stops at something not supported leaves a marker. -/
theorem replaced {segment thing : String} (compact : base.output.pretty = false)
    (inner : Adds script iterator (base.enter segment) (some (.notSupported thing)) inside more) :
    Adds (fun names => .enter segment (script names)) iterator base none
      (base.replacing inside thing) fun _ => marker (oneLine thing) := by
  intro names text spans
  obtain ⟨spans', ran⟩ := inner names text spans
  rw [← enter_worded] at ran
  let before := base.worded text spans (iterator names)
  have layout : before.output.pretty = false := compact
  have ended := run_ends (script names) (before.enter segment)
  rw [ran] at ended
  obtain ⟨-, added, -⟩ := ended
  obtain ⟨replaced, recovered, left⟩ := run_enter_of_stopped layout ran
  refine ⟨(closed before replaced).trail.spans, left.trans ?_⟩
  rw [recover?_eq added layout] at recovered
  cases recovered
  rfl

/-- A visit that stops for good stops what is around it. -/
theorem stopped {segment : String} {error : Error} (fatal : error.isRecoverable = false)
    (inner : Adds script iterator (base.enter segment) (some error) inside more) :
    Adds (fun names => .enter segment (script names)) iterator base (some error) inside more := by
  intro names text spans
  obtain ⟨spans', ran⟩ := inner names text spans
  rw [← enter_worded] at ran
  refine ⟨spans', ?_⟩
  rw [run_enter, ran]
  cases error with
  | notSupported thing => cases fatal
  | _ => rfl

end Adds

end Writer

/-! ## Runs -/

open Writer in
/-- Scripts that differ in a name end in the same way, and add a text of the same wording. -/
theorem Script.Uniform.adds {script : String → Script} (uniform : Script.Uniform script)
    {Naming : Type} (own iterator : Naming → String) {base : Writer}
    (compact : base.output.pretty = false) :
    ∃ failure after wording, after.output.pretty = false ∧
      Adds (fun names => script (own names)) iterator base failure after
        fun names => Piece.spellAll (own names) (iterator names) wording := by
  induction uniform generalizing base with
  | done => exact ⟨none, base, [], compact, fun _ _ spans => ⟨spans, by simp [run, Outcome.ending]⟩⟩
  | fail error =>
      exact ⟨some error, base, [], compact, fun _ _ spans => ⟨spans, by simp [run, Outcome.ending]⟩⟩
  | step first _ ih =>
      obtain ⟨wording, applied⟩ := apply_worded compact first
      obtain ⟨failure, after, rest, layout, adds⟩ :=
        ih ((extends_apply base first).pretty.trans compact)
      refine ⟨failure, after, wording ++ rest, layout, ?_⟩
      simp only [Piece.spellAll_append]
      exact adds.step fun names text spans => applied text spans (own names) (iterator names)
  | name _ ih =>
      obtain ⟨failure, after, rest, layout, adds⟩ := ih compact
      refine ⟨failure, after, .own :: rest, layout, ?_⟩
      simp only [Piece.spellAll_cons]
      exact adds.step fun _ _ _ => rfl
  | declare type _ ih =>
      obtain ⟨failure, after, rest, layout, adds⟩ :=
        @ih (base.apply (.declare ⟨"", type⟩)) compact
      refine ⟨failure, after, .text "" :: rest, layout, ?_⟩
      simp only [Piece.spellAll_cons]
      refine adds.step fun _ _ _ => ?_
      simp [apply, worded, Facts.learnCollection, Facts.learnIterator, Piece.spell]
  | visit segment _ _ bodyIh restIh =>
      obtain ⟨failure, inside, wording, layout, inner⟩ := @bodyIh (base.enter segment) compact
      cases failure with
      | none =>
          obtain ⟨failure, after, rest, layout, adds⟩ :=
            @restIh { inside with trail := base.trail } layout
          refine ⟨failure, after, wording ++ rest, layout, ?_⟩
          simp only [Piece.spellAll_append]
          exact (inner.enter compact).append adds
      | some error =>
          cases recoverable : error.isRecoverable with
          | false => exact ⟨some error, inside, wording, layout,
              (inner.stopped recoverable).append_stopped _⟩
          | true =>
              cases error with
              | notSupported thing =>
                  have replaced := inner.replaced compact
                  obtain ⟨failure, after, rest, layout, adds⟩ :=
                    @restIh (base.replacing inside thing) layout
                  refine ⟨failure, after, .text (marker (oneLine thing)) :: rest, layout, ?_⟩
                  simp only [Piece.spellAll_cons]
                  exact replaced.append adds
              | _ => cases recoverable

end AqlPipeline
