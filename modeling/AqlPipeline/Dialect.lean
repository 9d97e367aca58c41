import AqlPipeline.Error
import AqlPipeline.Expr.Static

/-!
# Dialects

How values and type names are spelled in the query text, and where the values of names outside of
the query come from.
-/

namespace AqlPipeline

/-- A named value from outside of the query. -/
structure Reference where
  /-- The name it is bound to. -/
  name : String
  /-- The value. -/
  value : Json

/-- How values, types and names from outside of the query are written. -/
structure Dialect where
  /-- The spelling of a value of a type. -/
  literal : Json → TypeRef → String
  /-- The spelling of a type. -/
  typeName : TypeRef → String
  /-- The value of a member, given its owner, itself and its type. -/
  resolve : Option Expr → Member → TypeRef → Except Error Reference

/-- The name of a type; that of an array has brackets for every rank behind the name of the
innermost element type. -/
def TypeRef.spelling (type : TypeRef) : String :=
  type.root.name ++ String.join (type.ranks.map TypeRef.brackets)

namespace Dialect

/-- AQL spells values like JSON. Query sources and values of no type have no spelling. -/
def spellLiteral (value : Json) (type : TypeRef) : String :=
  if type.isQueryable || type.isVoid then "" else value.compact

/-- Takes the value of a member from the expression itself. -/
def resolveCaptured (owner : Option Expr) (member : Member) (_ : TypeRef) :
    Except Error Reference :=
  match Expr.memberValue? owner member with
  | some value => .ok ⟨member.name, value⟩
  | none => .error (.unresolvedReference member.name)

/-- The dialect of queries. -/
def aql : Dialect where
  literal := spellLiteral
  typeName := TypeRef.spelling
  resolve := resolveCaptured

end Dialect

end AqlPipeline
