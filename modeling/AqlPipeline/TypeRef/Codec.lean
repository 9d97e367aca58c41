import AqlPipeline.Json.Record
import AqlPipeline.TypeRef.Basic

/-!
# Types as JSON

A type is a record of `name`, `kind` and `assignableTo`. Its kind is a word, or for an array a
choice by word with a record of `element` and `rank`. Only the name has to be there; the list is
left out when it is empty.
-/

namespace AqlPipeline

instance : Json.Words TypeKind where
  all := [.void, .boolean, .string, .number, .object, .anonymous, .closure, .queryable]
  word
    | .void => "void"
    | .boolean => "boolean"
    | .string => "string"
    | .number => "number"
    | .object => "object"
    | .anonymous => "anonymous"
    | .closure => "closure"
    | .queryable => "queryable"

namespace TypeRef

/-- The field for the types that values convert to, left out when there are none. -/
def assignableField : List String → List (String × Json)
  | [] => []
  | names => [("assignableTo", .array (names.map .string))]

/-- The type as JSON. -/
def encode : TypeRef → Json
  | .plain name kind names =>
    .object ([("name", .string name), ("kind", Json.ofValue kind)] ++ assignableField names)
  | .array name element rank names =>
    .object ([("name", .string name),
      ("kind", .object [("array", .object
        [("element", element.encode), ("rank", .integer rank.toNat)])])] ++ assignableField names)

/-- The record that says what an array kind consists of; as an array only inside a choice. -/
def arrayKind? (nesting : Json.Nesting) : Json → Option Json
  | .object [("array", .object members)] => some (.object members)
  | .object [("array", .array items)] => if nesting = .inner then some (.array items) else none
  | _ => none

/-- Reads a type that is at most `levels` array types deep. -/
def decode : (levels : Nat) → (nesting : Json.Nesting) → Json → Option TypeRef
  | 0, _, _ => none
  | levels + 1, nesting, json =>
    match Json.slots? ["name", "kind", "assignableTo"] json with
    | some [name, kind, assignable] => do
      let name ← Json.required name Json.string?
      let build ←
        Json.withDefault kind (TypeRef.plain name .object) fun kind =>
          match arrayKind? nesting kind with
          | some content =>
            match Json.slots? ["element", "rank"] content with
            | some [element, rank] => do
              let element ← Json.required element (decode levels nesting)
              let rank ← Json.required rank Json.uint32?
              return TypeRef.array name element rank
            | _ => none
          | none => (Json.word? nesting kind).map (TypeRef.plain name)
      let names ← Json.withDefault assignable [] (Json.list? Json.string?)
      return build names
    | _ => none

/-- Reads a type. -/
def ofJson? (nesting : Json.Nesting) (json : Json) : Option TypeRef :=
  decode (json.depth + 1) nesting json

end TypeRef

end AqlPipeline
