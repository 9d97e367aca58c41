import AqlPipeline.Render.Part
import Mathlib.Data.List.Forall2

/-!
# Scripts that differ in bound values

Two scripts are alike if they do the same at the same places of the tree, but for the values that
they bind without a name.  Which values may stand for each other is a parameter: any two of them, or
only equal ones.
-/

namespace AqlPipeline

/-- Which values may be bound without a name instead of each other, and which names may be bound. -/
structure Likeness where
  /-- Two values that may be bound instead of each other. -/
  values : Json → Json → Prop
  /-- The names that values may be bound to. -/
  names : String → Prop
  /-- Each value may be bound instead of itself, and so on. -/
  equivalence : Equivalence values
  /-- A text made of values may stand for one made of values that may stand for them. -/
  texts : ∀ (text : Json → Json → String) {first second first' second' : Json},
    values first first' → values second second' →
      values (.string (text first second)) (.string (text first' second'))

namespace Likeness

/-- Any value may be bound instead of any other one. -/
def anyValue (names : String → Prop) : Likeness where
  values _ _ := True
  names := names
  equivalence := ⟨fun _ => trivial, fun _ => trivial, fun _ _ => trivial⟩
  texts := by
    intros
    trivial

/-- Only the value itself may be bound. -/
def sameValue : Likeness where
  values first second := first = second
  names _ := True
  equivalence := eq_equivalence
  texts := by
    rintro text first second _ _ rfl rfl
    rfl

end Likeness

/-- The name that a step binds a value to. -/
def Step.name? : Step → Option String
  | .bindNamed name _ => some name
  | _ => none

/-- Two steps that do the same, but for a value that is bound without a name. -/
inductive Step.Alike (like : Likeness) : Step → Step → Prop where
  /-- The same step. -/
  | same (step : Step) (named : ∀ name, step.name? = some name → like.names name) :
      Alike like step step
  /-- Values that may be bound instead of each other. -/
  | literal {value other : Json} (values : like.values value other) :
      Alike like (.bindLiteral value) (.bindLiteral other)

/-- Two scripts that do the same, but for values that are bound without a name. -/
inductive Script.Alike (like : Likeness) : Script → Script → Prop where
  | done : Alike like .done .done
  | fail (error : Error) : Alike like (.fail error) (.fail error)
  | step {first first' : Step} {rest rest' : Script} (steps : Step.Alike like first first')
      (rests : Alike like rest rest') : Alike like (.step first rest) (.step first' rest')
  | visit (segment : String) {body body' rest rest' : Script} (bodies : Alike like body body')
      (rests : Alike like rest rest') :
      Alike like (.visit segment body rest) (.visit segment body' rest')

namespace Step.Alike

variable {like : Likeness}

theorem symm {first second : Step} (alike : Alike like first second) : Alike like second first := by
  cases alike with
  | same _ named => exact .same _ named
  | literal values => exact .literal (like.equivalence.symm values)

theorem trans {first second third : Step} (alike : Alike like first second)
    (next : Alike like second third) : Alike like first third := by
  cases alike with
  | same => exact next
  | literal values =>
      cases next with
      | same => exact .literal values
      | literal values' => exact .literal (like.equivalence.trans values values')

theorem eq {first second : Step} (alike : Alike .sameValue first second) : first = second := by
  cases alike with
  | same => rfl
  | literal values => exact congrArg Step.bindLiteral values

end Step.Alike

namespace Script.Alike

variable {like : Likeness}

theorem symm {first second : Script} (alike : Alike like first second) :
    Alike like second first := by
  induction alike with
  | done => exact .done
  | fail error => exact .fail error
  | step steps _ ih => exact .step steps.symm ih
  | visit segment _ _ bodyIh restIh => exact .visit segment bodyIh restIh

theorem trans {first second third : Script} (alike : Alike like first second)
    (next : Alike like second third) : Alike like first third := by
  induction alike generalizing third with
  | done => exact next
  | fail error => exact next
  | step steps _ ih =>
      cases next with
      | step steps' rests' => exact .step (steps.trans steps') (ih rests')
  | visit segment _ _ bodyIh restIh =>
      cases next with
      | visit _ bodies' rests' => exact .visit segment (bodyIh bodies') (restIh rests')

theorem refl_sameValue (script : Script) : Alike .sameValue script script := by
  induction script with
  | done => exact .done
  | fail error => exact .fail error
  | step first _ ih => exact .step (.same first fun _ _ => trivial) ih
  | visit segment _ _ bodyIh restIh => exact .visit segment bodyIh restIh

/-- Scripts that may not differ in any value are the same. -/
theorem eq {first second : Script} (alike : Alike .sameValue first second) : first = second := by
  induction alike with
  | done => rfl
  | fail error => rfl
  | step steps _ ih => rw [steps.eq, ih]
  | visit segment _ _ bodyIh restIh => rw [bodyIh, restIh]

/-! ## Single steps -/

theorem single {step other : Step} (steps : Step.Alike like step other) :
    Alike like (.step step .done) (.step other .done) :=
  .step steps .done

/-- A step that does not bind a name. -/
theorem plain (step : Step) (unnamed : step.name? = none) {rest rest' : Script}
    (rests : Alike like rest rest') : Alike like (.step step rest) (.step step rest') :=
  .step (.same step (by simp [unnamed])) rests

theorem write (text : String) : Alike like (.write text) (.write text) :=
  .plain _ rfl .done

theorem delimit (delimiter : String) : Alike like (.delimit delimiter) (.delimit delimiter) :=
  .plain _ rfl .done

theorem breakLine : Alike like .breakLine .breakLine :=
  .plain _ rfl .done

theorem dedent : Alike like .dedent .dedent :=
  .plain _ rfl .done

theorem openLines : Alike like .openLines .openLines :=
  .plain _ rfl breakLine

theorem closeLines : Alike like .closeLines .closeLines :=
  .plain _ rfl breakLine

theorem bindLiteral {value other : Json} (values : like.values value other) :
    Alike like (.bindLiteral value) (.bindLiteral other) :=
  single (.literal values)

theorem bindNamed {name : String} (named : like.names name) (value : Json) :
    Alike like (.bindNamed name value) (.bindNamed name value) :=
  single (.same _ (by rintro _ ⟨⟩; exact named))

theorem enter (segment : String) {body body' : Script} (bodies : Alike like body body') :
    Alike like (.enter segment body) (.enter segment body') :=
  .visit segment bodies .done

/-! ## Sequences -/

theorem append {first first' second second' : Script} (firsts : Alike like first first')
    (seconds : Alike like second second') : Alike like (first ++ second) (first' ++ second') := by
  induction firsts with
  | done => exact seconds
  | fail error => exact .fail error
  | step steps _ ih => exact .step steps ih
  | visit segment bodies _ _ ih => exact .visit segment bodies ih

theorem join {delimiter : Script} (delimiters : Alike like delimiter delimiter)
    {scripts scripts' : List Script} (alike : List.Forall₂ (Alike like) scripts scripts') :
    Alike like (Script.join delimiter scripts) (Script.join delimiter scripts') := by
  induction alike with
  | nil => exact .done
  | cons first others ih =>
      cases others with
      | nil => exact first
      | cons second others => exact (first.append delimiters).append ih

theorem visits (base : String) (index : Nat) {bodies bodies' : List Script}
    (alike : List.Forall₂ (Alike like) bodies bodies') :
    List.Forall₂ (Alike like) (Script.visits base index bodies)
      (Script.visits base index bodies') := by
  induction alike generalizing index with
  | nil => exact .nil
  | cons first _ ih => exact .cons (first.enter _) (ih (index + 1))

theorem inLine (base delimiter : String) {bodies bodies' : List Script}
    (alike : List.Forall₂ (Alike like) bodies bodies') :
    Alike like (Script.inLine base delimiter bodies) (Script.inLine base delimiter bodies') :=
  join (write delimiter) (visits base 0 alike)

theorem onLines (base delimiter : String) {bodies bodies' : List Script}
    (alike : List.Forall₂ (Alike like) bodies bodies') :
    Alike like (Script.onLines base delimiter bodies) (Script.onLines base delimiter bodies') :=
  join (delimit delimiter) (visits base 0 alike)

end Script.Alike

end AqlPipeline
