import AqlPipeline.Json.Basic

/-!
# Bind variables

The values that are passed next to the query text instead of inside it, by name and in order of
registration. Names never change their value. A name that is taken gets a suffix, drawn from a
sequence of suffixes.
-/

namespace AqlPipeline

/-- A number in decimal, filled up with zeros to 32 digits. -/
def paddedSuffix (number : Nat) : String :=
  let digits := Nat.toDigits 10 number
  String.ofList (List.replicate (32 - digits.length) '0' ++ digits)

/-- The bind variables of a query. -/
structure BindTable where
  /-- The sequence of suffixes. -/
  suffix : Nat → String
  /-- The variables with their values, in order of registration. -/
  entries : List (String × Json)
  /-- How many suffixes have been drawn. -/
  drawn : Nat

namespace BindTable

/-- No variables, with numbers for suffixes. -/
def empty : BindTable := ⟨paddedSuffix, [], 0⟩

/-- The value of a variable. -/
def get? (table : BindTable) (name : String) : Option Json :=
  Json.lookup? name table.entries

/-- Whether a name is taken. -/
def contains (table : BindTable) (name : String) : Bool :=
  (table.get? name).isSome

/-- Adds a variable. -/
def insert (table : BindTable) (name : String) (value : Json) : BindTable :=
  { table with entries := table.entries ++ [(name, value)] }

/-- The first name made of `preferred` and a suffix behind those drawn that is not taken, and how
many suffixes have then been drawn. The name after `tries` taken ones is not looked up. -/
def search (table : BindTable) (preferred : String) : (tries drawn : Nat) → String × Nat
  | 0, drawn => (preferred ++ table.suffix (drawn + 1), drawn + 1)
  | tries + 1, drawn =>
    let name := preferred ++ table.suffix (drawn + 1)
    if table.contains name then search table preferred tries (drawn + 1) else (name, drawn + 1)

/-- A name that is not taken. Among one more candidates than there are variables, one is free. -/
def freshName (table : BindTable) (preferred : String) : String × Nat :=
  table.search preferred table.entries.length table.drawn

/-- Binds a value to the preferred name, or to a fresh one if that is taken. -/
def register (table : BindTable) (preferred : String) (value : Json) : String × BindTable :=
  if table.contains preferred then
    let (name, drawn) := table.freshName preferred
    (name, { table.insert name value with drawn })
  else (preferred, table.insert preferred value)

/-- Binds a value to a name, unless the name has that value already; another value goes to a fresh
name. -/
def registerNamed (table : BindTable) (name : String) (value : Json) : String × BindTable :=
  match table.get? name with
  | some existing => if existing.same value then (name, table) else table.register name value
  | none => (name, table.insert name value)

end BindTable

end AqlPipeline
