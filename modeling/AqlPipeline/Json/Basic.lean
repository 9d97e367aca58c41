import AqlPipeline.Double.Basic

/-!
# JSON values

Members of an object keep their order. The type also holds objects with repeated names, as a text
may have them; `Json.collapse` merges those. Integers and floating point numbers are never equal,
and objects are equal whatever the order of their members.
-/

namespace AqlPipeline

/-- A JSON value. -/
inductive Json where
  /-- The value `null`. -/
  | null
  /-- A truth value. -/
  | bool (value : Bool)
  /-- A number without fraction and exponent. -/
  | integer (value : Int)
  /-- Any other number. -/
  | float (value : Double)
  /-- A text. -/
  | string (value : String)
  /-- A list of values. -/
  | array (items : List Json)
  /-- Named values, in order. -/
  | object (members : List (String × Json))

namespace Json

instance : Inhabited Json := ⟨.null⟩

/-! ## Looking inside -/

/-- The value of the first member with the given name. -/
def lookup? (name : String) : List (String × Json) → Option Json
  | [] => none
  | (other, value) :: members => if other = name then some value else lookup? name members

/-- The member of an object with the given name. -/
def member? (name : String) : Json → Option Json
  | .object members => lookup? name members
  | _ => none

/-- The text of a string. -/
def string? : Json → Option String
  | .string value => some value
  | _ => none

/-- The truth value of a boolean. -/
def bool? : Json → Option Bool
  | .bool value => some value
  | _ => none

/-- The items of an array. -/
def array? : Json → Option (List Json)
  | .array items => some items
  | _ => none

/-- The value of an integer. -/
def integer? : Json → Option Int
  | .integer value => some value
  | _ => none

/-- The value of an integer that fits in 64 bits with sign. -/
def int64? : Json → Option Int
  | .integer value =>
    if -0x8000000000000000 ≤ value ∧ value < 0x8000000000000000 then some value else none
  | _ => none

/-- The value of an integer that fits in 32 bits without sign. -/
def uint32? : Json → Option UInt32
  | .integer value =>
    if 0 ≤ value ∧ value < UInt32.size then some (UInt32.ofNat value.toNat) else none
  | _ => none

mutual

/-- How deep arrays and objects nest. -/
def depth : Json → Nat
  | .array items => itemsDepth items + 1
  | .object members => membersDepth members + 1
  | _ => 0

/-- The greatest depth of some values. -/
def itemsDepth : List Json → Nat
  | [] => 0
  | item :: items => max (depth item) (itemsDepth items)

/-- The greatest depth of the values of some members. -/
def membersDepth : List (String × Json) → Nat
  | [] => 0
  | (_, value) :: members => max (depth value) (membersDepth members)

end

/-! ## Equality -/

mutual

/-- Whether two values are equal: integers and floating point numbers are apart, the two zeros are
the same number, and the order of members does not count. -/
def same : (left right : Json) → Bool
  | .null, .null => true
  | .bool left, .bool right => left == right
  | .integer left, .integer right => left == right
  | .float left, .float right => left.sameNumber right
  | .string left, .string right => left == right
  | .array left, .array right => sameItems left right
  | .object left, .object right => left.length == right.length && sameMembers left right
  | _, _ => false

/-- Whether two lists have equal values at the same places. -/
def sameItems : (left right : List Json) → Bool
  | [], [] => true
  | left :: lefts, right :: rights => same left right && sameItems lefts rights
  | _, _ => false

/-- Whether every member on the left has an equal one of its name on the right. -/
def sameMembers : (left right : List (String × Json)) → Bool
  | [], _ => true
  | (name, value) :: members, right =>
    (match lookup? name right with
      | some other => same value other
      | none => false) && sameMembers members right

end

/-! ## Repeated names -/

/-- Sets the member of the given name: in place if there is one, else at the end. -/
def setMember (name : String) (value : Json) : List (String × Json) → List (String × Json)
  | [] => [(name, value)]
  | (other, old) :: members =>
    if other = name then (other, value) :: members
    else (other, old) :: setMember name value members

mutual

/-- Merges repeated names everywhere: a name keeps its first place and takes its last value. -/
def collapse : Json → Json
  | .array items => .array (collapseItems items)
  | .object members => .object (collapseMembers members [])
  | value => value

/-- Merges repeated names inside some values. -/
def collapseItems : List Json → List Json
  | [] => []
  | item :: items => collapse item :: collapseItems items

/-- Adds members to those already merged. -/
def collapseMembers : (members merged : List (String × Json)) → List (String × Json)
  | [], merged => merged
  | (name, value) :: members, merged =>
    collapseMembers members (setMember name (collapse value) merged)

end

end Json

end AqlPipeline
