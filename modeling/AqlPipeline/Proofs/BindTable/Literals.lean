import AqlPipeline.Proofs.BindTable.Fresh
import AqlPipeline.Writer
import Mathlib.Data.List.Induction
import Mathlib.Order.Monotone.Basic

/-!
# Values bound without a name

The first value without a name gets the bare one, and each further value the next suffix that makes
a free name.  If suffixes do not repeat, that is the next one that is not empty.
-/

namespace AqlPipeline

variable {suffix : Nat → String}

/-- The number of the suffix for a value that is bound without a name, when so many have been before.
An empty suffix makes the bare name again, which is taken, so it is passed over. -/
def literalNumber (suffix : Nat → String) : Nat → Nat
  | 0 => 0
  | count + 1 =>
    if suffix (literalNumber suffix count + 1) = "" then literalNumber suffix count + 2
    else literalNumber suffix count + 1

/-- The name of a value that is bound without one, when so many have been before. -/
def literalNameAt (suffix : Nat → String) : Nat → String
  | 0 => "p"
  | count + 1 => "p" ++ suffix (literalNumber suffix (count + 1))

/-! ## Numbers of suffixes -/

theorem literalNumber_strictMono (suffix : Nat → String) : StrictMono (literalNumber suffix) := by
  refine strictMono_nat_of_lt_succ fun count => ?_
  rw [literalNumber]
  split <;> omega

theorem suffix_literalNumber_ne (distinct : Function.Injective suffix) (count : Nat) :
    suffix (literalNumber suffix (count + 1)) ≠ "" := by
  rw [literalNumber]
  split
  · rename_i empty
    intro next
    have := distinct (next.trans empty.symm)
    omega
  · assumption

theorem literalNameAt_injective (distinct : Function.Injective suffix) :
    Function.Injective (literalNameAt suffix) := by
  have suffixed : ∀ count, "p" ≠ "p" ++ suffix (literalNumber suffix (count + 1)) := by
    intro count same
    exact suffix_literalNumber_ne distinct count (String.append_eq_left_iff.mp same.symm)
  intro first second same
  cases first with
  | zero =>
      cases second with
      | zero => rfl
      | succ second => exact absurd same (suffixed _)
  | succ first =>
      cases second with
      | zero => exact absurd same.symm (suffixed _)
      | succ second =>
          have suffix_eq : suffix (literalNumber suffix (first + 1)) =
              suffix (literalNumber suffix (second + 1)) := by
            simpa [literalNameAt] using same
          exact (literalNumber_strictMono suffix).injective (distinct suffix_eq)

/-! ## Variables -/

/-- Variables for some values that were bound without a name. -/
def literalEntries (suffix : Nat → String) (values : List Json) : List (String × Json) :=
  values.mapIdx fun count value => (literalNameAt suffix count, value)

theorem literalEntries_append (suffix : Nat → String) (values : List Json) (value : Json) :
    literalEntries suffix (values ++ [value]) =
      literalEntries suffix values ++ [(literalNameAt suffix values.length, value)] :=
  List.mapIdx_concat

theorem literalEntries_names (suffix : Nat → String) (values : List Json) :
    (literalEntries suffix values).map Prod.fst =
      (List.range values.length).map (literalNameAt suffix) := by
  induction values using List.reverseRecOn with
  | nil => rfl
  | append_singleton values value ih =>
      simp [literalEntries_append, ih, List.range_succ]

theorem literalEntries_nodup (distinct : Function.Injective suffix) (values : List Json) :
    ((literalEntries suffix values).map Prod.fst).Nodup := by
  rw [literalEntries_names]
  exact List.nodup_range.map (literalNameAt_injective distinct)

namespace BindTable

/-- The table in which just some values are bound, all of them without a name. -/
def ofLiterals (suffix : Nat → String) (values : List Json) : BindTable :=
  ⟨suffix, literalEntries suffix values, literalNumber suffix (values.length - 1)⟩

theorem contains_ofLiterals (distinct : Function.Injective suffix) (values : List Json)
    (count : Nat) :
    (ofLiterals suffix values).contains (literalNameAt suffix count) ↔ count < values.length := by
  rw [contains_iff, names, ofLiterals, literalEntries_names]
  constructor
  · intro member
    obtain ⟨other, inRange, same⟩ := List.mem_map.mp member
    rw [← literalNameAt_injective distinct same]
    exact List.mem_range.mp inRange
  · intro below
    exact List.mem_map_of_mem (List.mem_range.mpr below)

/-- Behind the first value, the bare name is taken. -/
theorem contains_literalName (distinct : Function.Injective suffix) (first : Json)
    (values : List Json) :
    (ofLiterals suffix (first :: values)).contains Writer.literalName :=
  (contains_ofLiterals distinct (first :: values) 0).mpr (Nat.zero_lt_succ _)

theorem search_of_free {table : BindTable} {preferred : String} {drawn : Nat}
    (free : ¬ table.contains (preferred ++ table.suffix (drawn + 1))) (tries : Nat) :
    table.search preferred tries drawn =
      (preferred ++ table.suffix (drawn + 1), drawn + 1) := by
  cases tries with
  | zero => rfl
  | succ tries => rw [search, if_neg free]

/-- Behind the first value, the search passes over the empty suffix, if it comes to it. -/
theorem freshName_ofLiterals (distinct : Function.Injective suffix) (first : Json)
    (values : List Json) :
    (ofLiterals suffix (first :: values)).freshName Writer.literalName =
      (literalNameAt suffix (values.length + 1), literalNumber suffix (values.length + 1)) := by
  let table := ofLiterals suffix (first :: values)
  have free : ¬ table.contains (literalNameAt suffix (values.length + 1)) := by
    rw [contains_ofLiterals distinct]
    exact Nat.lt_irrefl _
  have tries_eq : table.entries.length = values.length + 1 := by
    simp [table, ofLiterals, literalEntries]
  change table.search "p" table.entries.length (literalNumber suffix values.length) = _
  by_cases empty : suffix (literalNumber suffix values.length + 1) = ""
  · rw [literalNameAt, literalNumber, if_pos empty] at free ⊢
    have again : table.contains ("p" ++ table.suffix (literalNumber suffix values.length + 1)) := by
      rw [show table.suffix = suffix from rfl, empty, String.append_empty]
      exact contains_literalName distinct first values
    rw [tries_eq, search, if_pos again]
    exact search_of_free free values.length
  · rw [literalNameAt, literalNumber, if_neg empty] at free ⊢
    exact search_of_free free table.entries.length

/-- The next value gets the next name. -/
theorem register_ofLiterals (distinct : Function.Injective suffix) (values : List Json)
    (value : Json) :
    (ofLiterals suffix values).register Writer.literalName value =
      (literalNameAt suffix values.length, ofLiterals suffix (values ++ [value])) := by
  cases values with
  | nil => rfl
  | cons first values =>
      rw [register, if_pos (contains_literalName distinct first values),
        freshName_ofLiterals distinct]
      simp only [insert, ofLiterals, literalEntries_append, List.length_append, List.length_cons,
        List.length_nil, Nat.add_sub_cancel]

end BindTable

end AqlPipeline
