import AqlPipeline.Expr.Build
import AqlPipeline.Proofs.Expr.Tidy
import AqlPipeline.Proofs.Writer.Layouts
import AqlPipeline.Query

/-!
# Layouts differ in white space only

Whether an expression is written in pretty or in compact text changes neither how the writing ends
nor, but for white space, what has been written.
-/

namespace AqlPipeline

/-- What a run has written, without white space, or why there is no query. -/
def Outcome.solidText : Outcome → Except Failure (List Char)
  | .finished writer => .ok (Text.withoutBlanks writer.output.text.toList)
  | .stopped _ error => .error (.refused error)
  | .crashed _ => .error .crashed

theorem Writer.Agree.solidText_eq {next : Room} {before : List Char} {pretty compact : Outcome}
    (agree : Agree next before pretty compact) : pretty.solidText = compact.solidText := by
  cases agree with
  | finished matched _ _ => exact congrArg Except.ok matched.text
  | stopped _ _ _ => rfl

/-- The two layouts of a query start alike. -/
theorem Writer.matched_start (settings : Settings) :
    Matched (.start { settings with pretty := true }) (.start { settings with pretty := false }) :=
  ⟨rfl, rfl, rfl, rfl, rfl, rfl⟩

/-- The body of a query in pretty text and in compact text: both cannot be written, for the same
reason, or they are the same without white space.  Only names of places that are jumped to must not
have spaces. -/
theorem layouts_differ_in_blanks (dialect : Dialect) (settings : Settings) (expr : Expr)
    (plain : JumpPlainly expr.nodes) :
    (Writer.run (.enter "" (expr.script dialect {}))
        (.start { settings with pretty := true })).solidText =
      (Writer.run (.enter "" (expr.script dialect {}))
        (.start { settings with pretty := false })).solidText := by
  have tidy : Script.Tidy .ready (.enter "" (expr.script dialect {})) .any :=
    (expr.script_tidy plain {}).enter ""
  have ready : Room.ready.Holds (Writer.start { settings with pretty := true }).output :=
    Nat.zero_le _
  exact (Writer.run_agree tidy (Writer.matched_start settings) ready).solidText_eq

/-- A jump with a lambda that is passed on, in front of a text that there is no AQL for. -/
def Expr.unsupportedJump : Expr :=
  let user : Parameter := ⟨"user", .named "User"⟩
  let names : Expr := .function [user] (.memberOf (.parameter user) "Name" .string)
  let clock : Expr := .staticCall (.named "Clock") "Now" [] .string
  .goto .returnTo (some ⟨some "done"⟩) (some (.binary .add (.quoted names) clock .string)) .void

/-- In pretty text, the space behind the name of the place is dropped; the line break in its stead
stays when all behind it is cut out. -/
theorem layouts_differ_in_blanks_unsupportedJump :
    JumpPlainly Expr.unsupportedJump.nodes ∧
      ∃ pretty compact,
        Writer.run (.enter "" (Expr.unsupportedJump.script .aql {})) (.start { pretty := true }) =
          .finished pretty ∧
        Writer.run (.enter "" (Expr.unsupportedJump.script .aql {})) (.start { pretty := false }) =
          .finished compact ∧
        "return done\n".toList <+: pretty.output.text.toList ∧
        "return done ".toList <+: compact.output.text.toList ∧
        Text.withoutBlanks pretty.output.text.toList =
          Text.withoutBlanks compact.output.text.toList := by
  have plain : JumpPlainly Expr.unsupportedJump.nodes := by decide
  obtain ⟨pretty, compact, ran, ran', begins, begins'⟩ : ∃ pretty compact,
      Writer.run (.enter "" (Expr.unsupportedJump.script .aql {})) (.start { pretty := true }) =
        .finished pretty ∧
      Writer.run (.enter "" (Expr.unsupportedJump.script .aql {})) (.start { pretty := false }) =
        .finished compact ∧
      "return done\n".toList <+: pretty.output.text.toList ∧
      "return done ".toList <+: compact.output.text.toList :=
    ⟨_, _, rfl, rfl, by decide +kernel, by decide +kernel⟩
  have same := layouts_differ_in_blanks .aql {} Expr.unsupportedJump plain
  rw [ran, ran'] at same
  exact ⟨plain, pretty, compact, ran, ran', begins, begins', Except.ok.inj same⟩

end AqlPipeline
