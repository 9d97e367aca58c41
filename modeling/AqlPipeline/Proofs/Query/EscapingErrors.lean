import AqlPipeline.Proofs.Expr.Abides
import AqlPipeline.Proofs.Writer.Run
import AqlPipeline.Query

/-!
# Errors that do not get out

What is not supported is replaced by a marker where it is visited, and every visit that ends is back
at the position it started from, so a position is never left that is not the current one.  Neither
of the two errors comes out of writing a pipeline.
-/

namespace AqlPipeline

/-! ## Errors of a script -/

namespace Script

/-- A script that abides by rules stops at errors only that they allow. -/
theorem Abides.failure?_allowed {rules : Rules} {due next : List Char} {script : Script}
    (abides : Abides rules due script next) {error : Error}
    (failed : script.failure? = some error) : rules.allows error := by
  induction abides with
  | done => cases failed
  | fail allowed =>
      cases failed
      exact allowed
  | step _ _ ih => exact ih failed
  | visit segment _ _ bodyIh restIh =>
      rw [failure?] at failed
      split at failed
      · exact restIh failed
      · exact restIh failed
      · rename_i bodyError _ bodyFailed
        exact bodyIh (bodyFailed.trans failed)

/-- A visit stops at what its inside stops at, unless that is only not supported. -/
theorem failure?_enter {segment : String} {body : Script} {error : Error}
    (failed : (enter segment body).failure? = some error) :
    body.failure? = some error ∧ ∀ thing, error ≠ .notSupported thing := by
  rw [enter, failure?] at failed
  split at failed
  · cases failed
  · cases failed
  · rename_i bodyError supported bodyFailed
    cases failed
    exact ⟨bodyFailed, supported⟩

/-- Every error is allowed but that of a position that is not the current one. -/
def Rules.onPath : Rules where
  brackets := False
  allows error := ∀ expected actual, error ≠ .invalidPath expected actual
  allows_notSupported := nofun
  allows_ordinary := by
    rintro error ordinary expected actual rfl
    cases ordinary

end Script

/-- A dialect abides by this if looking up members does. -/
theorem Dialect.abidesBy_onPath {dialect : Dialect}
    (resolves : ∀ owner member type expected actual,
      dialect.resolve owner member type ≠ .error (.invalidPath expected actual)) :
    dialect.AbidesBy Script.Rules.onPath where
  literal _ _ _ := nofun
  typeName _ _ := nofun
  reference _ _ _ _ _ _ := nofun
  error owner member type _ _ failed expected actual same :=
    resolves owner member type expected actual (failed.trans (congrArg _ same))

/-- The error that a pipeline cannot be written for is one that its script stops at. -/
theorem Query.failure?_of_compile {dialect : Dialect} {settings : Settings} {expr : Expr}
    {error : Error} (failed : Query.compile dialect settings expr = .error (.refused error)) :
    (Script.enter "" (expr.script dialect {})).failure? = some error := by
  have ends := Writer.run_ends (.enter "" (expr.script dialect {})) (.start settings)
  rw [Query.compile] at failed
  split at failed
  · cases failed
  · rename_i stopped
    cases failed
    rw [stopped] at ends
    cases error with
    | notSupported thing => exact ends.1
    | _ => exact ends
  · cases failed

/-- The dialect of queries does not look at positions. -/
theorem Dialect.aql_resolve_ne_invalidPath (owner : Option Expr) (member : Member) (type : TypeRef)
    (expected actual : String) :
    Dialect.aql.resolve owner member type ≠ .error (.invalidPath expected actual) := by
  change Dialect.resolveCaptured owner member type ≠ _
  unfold Dialect.resolveCaptured
  split <;> nofun

/-- Writing a pipeline never comes to something that is not supported, nor to a wrong position,
and every visit that comes to its end is back at the segments it began with. -/
theorem inner_errors_stay_inside (dialect : Dialect) (settings : Settings) (expr : Expr)
    (resolves : ∀ owner member type expected actual,
      dialect.resolve owner member type ≠ .error (.invalidPath expected actual)) :
    (∀ thing, Query.compile dialect settings expr ≠ .error (.refused (.notSupported thing))) ∧
      (∀ expected actual,
        Query.compile dialect settings expr ≠ .error (.refused (.invalidPath expected actual))) ∧
      ∀ segment body before after,
        Writer.run (.enter segment body) before = .finished after →
          after.trail.segments = before.trail.segments := by
  refine ⟨?_, ?_, ?_⟩
  · intro thing failed
    exact (Script.failure?_enter (Query.failure?_of_compile failed)).2 thing rfl
  · intro expected actual failed
    have accepts : Script.Rules.onPath.AcceptsAll expr.nodes := fun _ _ _ _ => nofun
    have abides := expr.script_neutral (Dialect.abidesBy_onPath resolves) accepts {} []
    have stopped := (Script.failure?_enter (Query.failure?_of_compile failed)).1
    exact abides.failure?_allowed stopped expected actual rfl
  · intro segment body before after finished
    obtain ⟨inside, -, -, extended⟩ := Writer.run_enter_finished finished
    exact extended.segments

/-- The deletion of a member that is the operand of another operation. -/
def Expr.negatedDeletion : Expr :=
  .unary .negate (some (.late (.deleteMember "Name") [] TypeRef.object)) TypeRef.object

theorem inner_errors_stay_inside_negatedDeletion :
    (∀ owner member type expected actual,
        Dialect.aql.resolve owner member type ≠ .error (.invalidPath expected actual)) ∧
      (∀ thing, Query.compile Dialect.aql {} Expr.negatedDeletion ≠
        .error (.refused (.notSupported thing))) ∧
      (∀ expected actual, Query.compile Dialect.aql {} Expr.negatedDeletion ≠
        .error (.refused (.invalidPath expected actual))) ∧
      ∀ after, Writer.run (.enter "Body" (Expr.negatedDeletion.script Dialect.aql {})) (.start {}) =
        .finished after → after.trail.segments = [] := by
  obtain ⟨supported, onPath, back⟩ := inner_errors_stay_inside Dialect.aql {} Expr.negatedDeletion
    Dialect.aql_resolve_ne_invalidPath
  exact ⟨Dialect.aql_resolve_ne_invalidPath, supported, onPath, fun after => back _ _ _ after⟩

end AqlPipeline
