import AqlPipeline.Proofs.Writer.Walk
import AqlPipeline.Query

/-!
# Queries with any suffixes

Where two bind variables would have the same name, a suffix tells them apart.  Padded numbers are
one sequence to draw suffixes from; a query can be written with any other one.
-/

namespace AqlPipeline

/-- Nothing written yet, with suffixes from any sequence. -/
def Writer.startWith (suffix : Nat → String) (settings : Settings) : Writer :=
  { start settings with binds := ⟨suffix, [], 0⟩ }

namespace Query

/-- Writes a pipeline as a query, with suffixes from any sequence. -/
def compileWith (suffix : Nat → String) (dialect : Dialect) (settings : Settings) (expr : Expr) :
    Except Failure Query :=
  match Writer.run (.enter "" (expr.script dialect {})) (.startWith suffix settings) with
  | .finished writer => .ok writer.finish
  | .stopped _ error => .error (.refused error)
  | .crashed _ => .error .crashed

theorem compileWith_paddedSuffix : compileWith paddedSuffix = compile := rfl

variable {dialect : Dialect} {settings : Settings} {expr : Expr} {query : Query}

theorem run_of_compileWith {suffix : Nat → String}
    (compiled : compileWith suffix dialect settings expr = .ok query) :
    ∃ last, Writer.run (.enter "" (expr.script dialect {})) (.startWith suffix settings) =
      .finished last ∧ query = last.finish := by
  unfold compileWith at compiled
  split at compiled
  · rename_i last ran
    cases compiled
    exact ⟨last, ran, rfl⟩
  · cases compiled
  · cases compiled

theorem hasCrashed_of_compile (crashed : compile dialect settings expr = .error .crashed) :
    (Writer.run (.enter "" (expr.script dialect {})) (.start settings)).HasCrashed := by
  unfold compile at crashed
  split at crashed
  · cases crashed
  · cases crashed
  · rename_i ran
    exact ⟨_, ran⟩

theorem run_of_compile (compiled : compile dialect settings expr = .ok query) :
    ∃ last, Writer.run (.enter "" (expr.script dialect {})) (.start settings) =
      .finished last ∧ query = last.finish :=
  run_of_compileWith (compileWith_paddedSuffix ▸ compiled)

end Query

/-- The walk of a whole expression, before its first step. -/
def Walk.ofExpr (suffix : Nat → String) (dialect : Dialect) (settings : Settings) (expr : Expr) :
    Walk :=
  ⟨.enter "" (expr.script dialect {}), [], .startWith suffix settings⟩

/-- The walk of a whole expression with padded numbers as suffixes. -/
def Walk.start (dialect : Dialect) (settings : Settings) (expr : Expr) : Walk :=
  .ofExpr paddedSuffix dialect settings expr

end AqlPipeline
