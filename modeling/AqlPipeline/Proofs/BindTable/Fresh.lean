import AqlPipeline.BindTable
import Mathlib.Data.List.Nodup
import Mathlib.Data.List.Perm.Subperm

/-!
# Names of bind variables

A taken name gets the first suffix that makes a free one.  As long as suffixes do not repeat there
is one among the next ones, however many of the names made with them are taken already, so the
search for it ends.  Registering a value then adds one variable under a free name, or finds an equal
value under the wanted one.
-/

namespace AqlPipeline

/-! ## Look-ups -/

theorem Json.lookup?_isSome_iff {name : String} {members : List (String × Json)} :
    (Json.lookup? name members).isSome ↔ name ∈ members.map Prod.fst := by
  induction members with
  | nil => simp [Json.lookup?]
  | cons first members ih =>
      obtain ⟨other, value⟩ := first
      by_cases found : other = name
      · simp [Json.lookup?, found]
      · have ne : name ≠ other := fun same => found same.symm
        simp [Json.lookup?, found, ne, ih]

theorem Json.lookup?_of_prefix {name : String} {value : Json}
    {members longer : List (String × Json)}
    (looked : Json.lookup? name members = some value) (extended : members <+: longer) :
    Json.lookup? name longer = some value := by
  obtain ⟨more, rfl⟩ := extended
  induction members with
  | nil => cases looked
  | cons first members ih =>
      obtain ⟨other, old⟩ := first
      rw [List.cons_append]
      simp only [Json.lookup?] at looked ⊢
      split
      · rename_i found
        rwa [if_pos found] at looked
      · rename_i missed
        rw [if_neg missed] at looked
        exact ih looked

theorem Json.lookup?_append_new {name : String} {members : List (String × Json)}
    (free : name ∉ members.map Prod.fst) (value : Json) :
    Json.lookup? name (members ++ [(name, value)]) = some value := by
  induction members with
  | nil => simp [Json.lookup?]
  | cons first members ih =>
      obtain ⟨other, old⟩ := first
      simp only [List.map_cons, List.mem_cons, not_or] at free
      have missed : other ≠ name := fun same => free.1 same.symm
      rw [List.cons_append, Json.lookup?, if_neg missed]
      exact ih free.2

/-! ## Suffixes -/

/-- Zeros in front of the digits of a number do not change it. -/
theorem ofDigitChars_zeros_append (count number : Nat) :
    Nat.ofDigitChars 10 (List.replicate count '0' ++ Nat.toDigits 10 number) 0 = number := by
  induction count with
  | zero => exact Nat.ofDigitChars_toDigits (by decide) (by decide)
  | succ count ih =>
      rw [List.replicate_succ, List.cons_append, Nat.ofDigitChars_cons]
      exact ih

/-- Numbers filled up with zeros do not repeat. -/
theorem paddedSuffix_injective : Function.Injective paddedSuffix := by
  intro first second same
  have chars_eq := congrArg (fun text => Nat.ofDigitChars 10 text.toList 0) same
  simpa [paddedSuffix, ofDigitChars_zeros_append] using chars_eq

namespace BindTable

/-- The names of the variables, in order. -/
def names (table : BindTable) : List String :=
  table.entries.map Prod.fst

theorem contains_iff {table : BindTable} {name : String} :
    table.contains name ↔ name ∈ table.names :=
  Json.lookup?_isSome_iff

/-- The name made with the next suffix when some have been drawn. -/
def candidate (table : BindTable) (preferred : String) (drawn : Nat) : String :=
  preferred ++ table.suffix (drawn + 1)

/-- The search for a free name, without a limit: taken names are passed over until one is free.
The result is the name, and how many suffixes have then been drawn. -/
inductive Finds (table : BindTable) (preferred : String) : Nat → String × Nat → Prop where
  /-- The next name is free. -/
  | free {drawn : Nat} (free : table.candidate preferred drawn ∉ table.names) :
      Finds table preferred drawn (table.candidate preferred drawn, drawn + 1)
  /-- The next name is taken. -/
  | taken {drawn : Nat} {result : String × Nat}
      (taken : table.candidate preferred drawn ∈ table.names)
      (found : Finds table preferred (drawn + 1) result) : Finds table preferred drawn result

theorem Finds.not_mem {table : BindTable} {preferred : String} {drawn : Nat}
    {result : String × Nat} (found : Finds table preferred drawn result) :
    result.1 ∉ table.names := by
  induction found with
  | free free => exact free
  | taken _ _ ih => exact ih

/-- Among one more candidates than there are variables, one is free. -/
theorem exists_free {table : BindTable} (distinct : Function.Injective table.suffix)
    (preferred : String) (drawn : Nat) :
    ∃ passed ≤ table.entries.length, table.candidate preferred (drawn + passed) ∉ table.names := by
  by_contra noneFree
  have allTaken : ∀ passed ≤ table.entries.length,
      table.candidate preferred (drawn + passed) ∈ table.names := by
    intro passed enough
    by_contra free
    exact noneFree ⟨passed, enough, free⟩
  let candidates :=
    (List.range (table.entries.length + 1)).map fun passed =>
      table.candidate preferred (drawn + passed)
  have nodup : candidates.Nodup := by
    refine List.Nodup.map (fun first second same => ?_) List.nodup_range
    have suffix_eq : table.suffix (drawn + first + 1) = table.suffix (drawn + second + 1) := by
      simpa [candidate] using same
    have := distinct suffix_eq
    omega
  have subset : candidates ⊆ table.names := by
    intro name member
    obtain ⟨passed, inRange, rfl⟩ := List.mem_map.mp member
    exact allTaken passed (Nat.lt_succ_iff.mp (List.mem_range.mp inRange))
  have shorter := (List.subperm_of_subset nodup subset).length_le
  simp only [candidates, names, List.length_map, List.length_range] at shorter
  omega

/-- A search with enough tries finds what the search without a limit does. -/
theorem search_finds {table : BindTable} {preferred : String} {tries drawn passed : Nat}
    (enough : passed ≤ tries)
    (free : table.candidate preferred (drawn + passed) ∉ table.names) :
    Finds table preferred drawn (table.search preferred tries drawn) := by
  induction tries generalizing drawn passed with
  | zero =>
      obtain rfl : passed = 0 := by omega
      exact .free free
  | succ tries ih =>
      change Finds table preferred drawn
        (if table.contains (table.candidate preferred drawn) then
          table.search preferred tries (drawn + 1)
        else (table.candidate preferred drawn, drawn + 1))
      by_cases taken : table.candidate preferred drawn ∈ table.names
      · rw [if_pos (contains_iff.mpr taken)]
        refine .taken taken ?_
        cases passed with
        | zero => exact absurd taken free
        | succ passed =>
            rw [← Nat.add_assoc, Nat.add_right_comm] at free
            exact ih (by omega) free
      · rw [if_neg fun contained => taken (contains_iff.mp contained)]
        exact .free taken

/-- The search for a fresh name ends, with the fresh name. -/
theorem freshName_finds {table : BindTable} (distinct : Function.Injective table.suffix)
    (preferred : String) : Finds table preferred table.drawn (table.freshName preferred) := by
  obtain ⟨passed, enough, free⟩ := exists_free distinct preferred table.drawn
  exact search_finds enough free

/-! ## Registration -/

theorem register_entries (table : BindTable) (preferred : String) (value : Json) :
    (table.register preferred value).2.entries =
      table.entries ++ [((table.register preferred value).1, value)] := by
  unfold register
  split <;> rfl

/-- A new variable with the value, under a free name. -/
theorem register_eq {table : BindTable} (distinct : Function.Injective table.suffix)
    (preferred : String) (value : Json) :
    (table.register preferred value).1 ∉ table.names ∧
      (table.register preferred value).2.entries =
        table.entries ++ [((table.register preferred value).1, value)] := by
  refine ⟨?_, register_entries table preferred value⟩
  unfold register
  split
  · exact (freshName_finds distinct preferred).not_mem
  · rename_i free
    exact fun taken => free (contains_iff.mpr taken)

/-- A new variable with the value, under a free name, or one that is there with an equal value. -/
theorem registerNamed_cases {table : BindTable} (distinct : Function.Injective table.suffix)
    (name : String) (value : Json) :
    ((table.registerNamed name value).1 ∉ table.names ∧
      (table.registerNamed name value).2.entries =
        table.entries ++ [((table.registerNamed name value).1, value)]) ∨
    (table.registerNamed name value).2 = table ∧
      ∃ bound, table.get? (table.registerNamed name value).1 = some bound ∧ bound.same value := by
  unfold registerNamed
  cases looked : table.get? name with
  | some existing =>
      dsimp only
      split
      · rename_i same
        exact .inr ⟨rfl, existing, looked, same⟩
      · exact .inl (register_eq distinct name value)
  | none =>
      refine .inl ⟨fun taken => ?_, rfl⟩
      have present := contains_iff.mpr taken
      simp [contains, looked] at present

theorem register_suffix (table : BindTable) (preferred : String) (value : Json) :
    (table.register preferred value).2.suffix = table.suffix := by
  unfold register
  split <;> rfl

theorem registerNamed_suffix (table : BindTable) (name : String) (value : Json) :
    (table.registerNamed name value).2.suffix = table.suffix := by
  unfold registerNamed
  split
  · split
    · rfl
    · exact register_suffix table name value
  · rfl

end BindTable

end AqlPipeline
