import AqlPipeline.Text.Caseless

/-!
# Stages of a pipeline

The methods of query sources that have a clause of their own.
-/

namespace AqlPipeline

/-- A method with a clause of its own. -/
inductive Stage where
  | filter
  | orderBy
  | thenBy
  | orderByDescending
  | thenByDescending
  | select
  | groupBy
  | singleOrDefault
  | contains
  | startsWith
  | take
  | skip
  deriving DecidableEq, Repr

namespace Stage

/-- All stages. -/
def all : List Stage :=
  [.filter, .orderBy, .thenBy, .orderByDescending, .thenByDescending, .select, .groupBy,
    .singleOrDefault, .contains, .startsWith, .take, .skip]

/-- The name of the method. -/
def methodName : Stage → String
  | .filter => "Where"
  | .orderBy => "OrderBy"
  | .thenBy => "ThenBy"
  | .orderByDescending => "OrderByDescending"
  | .thenByDescending => "ThenByDescending"
  | .select => "Select"
  | .groupBy => "GroupBy"
  | .singleOrDefault => "SingleOrDefault"
  | .contains => "Contains"
  | .startsWith => "StartsWith"
  | .take => "Take"
  | .skip => "Skip"

/-- The stage of a method name, ignoring ASCII case. -/
def ofName? (name : String) : Option Stage :=
  all.find? fun stage => Text.sameUpToCase stage.methodName name

end Stage

end AqlPipeline
