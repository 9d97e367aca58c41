import AqlPipeline.Json.Basic

/-!
# Records, choices and words in JSON

A record is an object of named fields, or an array of its fields in order with missing ones at the
end. A choice is a record with one more field, in front, that tells which of its forms it has. A
word stands for a value of a finite type.

Inside a choice the reader is more liberal, hence `Nesting`: there a choice may be given by its
number, a word may have an empty object as payload, and the content of a choice by word may be an
array.
-/

namespace AqlPipeline.Json

/-- Whether an item is read on its own, or as part of a choice. -/
inductive Nesting where
  /-- On its own. -/
  | outer
  /-- As part of a choice. -/
  | inner
  deriving DecidableEq, Repr

/-! ## Records -/

/-- The values of a member's name: none, or one; a repeated name is an error. -/
def slot? (members : List (String × Json)) (name : String) : Option (Option Json) :=
  match members.filter fun member => member.1 == name with
  | [] => some none
  | [member] => some (some member.2)
  | _ => none

/-- The fields of a record in the order of `names`, each with its value if it is there. Members of
other names do not matter. -/
def slots? (names : List String) : Json → Option (List (Option Json))
  | .object members => names.mapM (slot? members)
  | .array items =>
    if items.length ≤ names.length then
      some (items.map some ++ List.replicate (names.length - items.length) none)
    else none
  | _ => none

/-- Reads a field that has to be there. -/
def required {α : Type} (slot : Option Json) (read : Json → Option α) : Option α :=
  slot.bind read

/-- Reads a field that has a default. -/
def withDefault {α : Type} (slot : Option Json) (default : α) (read : Json → Option α) : Option α :=
  match slot with
  | none => some default
  | some value => read value

/-- Reads a field that may be left out or null. -/
def nullable {α : Type} (slot : Option Json) (read : Json → Option α) : Option (Option α) :=
  match slot with
  | none => some none
  | some .null => some none
  | some value => (read value).map some

/-- Reads an array item by item. -/
def list? {α : Type} (read : Json → Option α) : Json → Option (List α)
  | .array items => items.mapM read
  | _ => none

/-- A value, with null for none. -/
def ofOption {α : Type} (write : α → Json) : Option α → Json
  | none => .null
  | some value => write value

/-! ## Words and choices -/

/-- A finite type whose values are written as words. -/
class Words (α : Type) where
  /-- All values, in the order of their numbers. -/
  all : List α
  /-- The word of a value. -/
  word : α → String

/-- The value with the given word. -/
def ofWord? {α : Type} [Words α] (word : String) : Option α :=
  (Words.all : List α).find? fun value => Words.word value == word

/-- The word of a value as JSON. -/
def ofValue {α : Type} [Words α] (value : α) : Json :=
  .string (Words.word value)

/-- Whether a value is the payload of a word without content. -/
def isEmptyPayload (nesting : Nesting) : Json → Bool
  | .null => true
  | .object [] => nesting == .inner
  | _ => false

/-- Reads a word, on its own or as the name of an object's only member. -/
def word? {α : Type} [Words α] (nesting : Nesting) : Json → Option α
  | .string word => ofWord? word
  | .object [(word, payload)] => if isEmptyPayload nesting payload then ofWord? word else none
  | _ => none

/-- Reads the form of a choice, by its word or by its number. -/
def form? {α : Type} [Words α] (nesting : Nesting) : Json → Option α
  | .string word => ofWord? word
  | .integer number =>
    if nesting = .inner ∧ 0 ≤ number then (Words.all : List α)[number.toNat]? else none
  | _ => none

/-- Splits a choice into its form and its other fields. -/
def choice? (tag : String) : Json → Option (Json × Json)
  | .object members =>
    match members.filter fun member => member.1 == tag with
    | [member] => some (member.2, .object (members.filter fun member => member.1 != tag))
    | _ => none
  | .array (form :: items) => some (form, .array items)
  | _ => none

end AqlPipeline.Json
