import AqlPipeline.Proofs.Script.Alike
import AqlPipeline.Query

/-!
# Runs of scripts that differ in bound values

Two scripts that are alike, run by writers that differ only in the values of variables that were
bound without a name, end alike: a name never goes to another variable, since only values bound by
name are compared, and those are never called like the others.
-/

namespace AqlPipeline

/-- Whether a name may be given to a value that is bound without one. -/
def Writer.IsLiteralName (suffix : Nat → String) (name : String) : Prop :=
  name = literalName ∨ ∃ number, name = literalName ++ suffix number

/-- Any value may be bound without a name instead of any other one, but no other value may have the
name that such a value may be given. -/
def Likeness.hiding (suffix : Nat → String) : Likeness :=
  .anyValue fun name => ¬ Writer.IsLiteralName suffix name

/-! ## Bind variables -/

/-- Two variables of the same name, with the same value unless it is bound without a name. -/
def Writer.EntryAlike (suffix : Nat → String) (entry other : String × Json) : Prop :=
  other.1 = entry.1 ∧ (¬ Writer.IsLiteralName suffix entry.1 → other.2 = entry.2)

section Entries

variable {suffix : Nat → String} {entries others : List (String × Json)}
  (alike : List.Forall₂ (Writer.EntryAlike suffix) entries others)

include alike

theorem names_eq_of_entries : others.map Prod.fst = entries.map Prod.fst := by
  induction alike with
  | nil => rfl
  | cons first _ ih => rw [List.map_cons, List.map_cons, first.1, ih]

theorem lookup?_isSome_eq_of_entries (name : String) :
    (Json.lookup? name others).isSome = (Json.lookup? name entries).isSome := by
  induction alike with
  | nil => rfl
  | cons first _ ih =>
      simp only [Json.lookup?, first.1]
      split
      · rfl
      · exact ih

theorem lookup?_eq_of_entries {name : String} (named : ¬ Writer.IsLiteralName suffix name) :
    Json.lookup? name others = Json.lookup? name entries := by
  induction alike with
  | nil => rfl
  | cons first _ ih =>
      simp only [Json.lookup?, first.1]
      split
      · rename_i found
        rw [first.2 (found ▸ named)]
      · exact ih

end Entries

/-- Two tables with the same names, where values differ only if they are bound without a name. -/
structure BindTable.Alike (suffix : Nat → String) (table other : BindTable) : Prop where
  /-- The suffixes of the first table. -/
  suffix_eq : table.suffix = suffix
  /-- Those of the second one. -/
  other_suffix_eq : other.suffix = suffix
  /-- As many of them have been drawn. -/
  drawn_eq : other.drawn = table.drawn
  /-- The variables. -/
  entries : List.Forall₂ (Writer.EntryAlike suffix) table.entries other.entries

namespace BindTable.Alike

variable {suffix : Nat → String} {table other : BindTable}

theorem contains_eq (alike : Alike suffix table other) (name : String) :
    other.contains name = table.contains name :=
  lookup?_isSome_eq_of_entries alike.entries name

theorem search_eq (alike : Alike suffix table other) (preferred : String) (tries drawn : Nat) :
    other.search preferred tries drawn = table.search preferred tries drawn := by
  induction tries generalizing drawn with
  | zero => simp only [search, alike.suffix_eq, alike.other_suffix_eq]
  | succ tries ih =>
      simp only [search, alike.suffix_eq, alike.other_suffix_eq, alike.contains_eq, ih]

theorem freshName_eq (alike : Alike suffix table other) (preferred : String) :
    other.freshName preferred = table.freshName preferred := by
  rw [freshName, alike.search_eq, ← alike.entries.length_eq, alike.drawn_eq, freshName]

theorem insert (alike : Alike suffix table other) {name : String} {value value' : Json}
    (values : ¬ Writer.IsLiteralName suffix name → value' = value) {drawn drawn' : Nat}
    (drawn_eq : drawn' = drawn) :
    Alike suffix { table.insert name value with drawn }
      { other.insert name value' with drawn := drawn' } where
  suffix_eq := alike.suffix_eq
  other_suffix_eq := alike.other_suffix_eq
  drawn_eq := drawn_eq
  entries := List.rel_append alike.entries (.cons ⟨rfl, values⟩ .nil)

/-- The same name is chosen, and the tables stay alike unless different values go to a name that is
not for values without one. -/
theorem register (alike : Alike suffix table other) (preferred : String) {value value' : Json}
    (values : ¬ Writer.IsLiteralName suffix (table.register preferred value).1 → value' = value) :
    (other.register preferred value').1 = (table.register preferred value).1 ∧
      Alike suffix (table.register preferred value).2 (other.register preferred value').2 := by
  simp only [BindTable.register] at values ⊢
  rw [alike.contains_eq, alike.freshName_eq]
  split
  · rename_i taken
    rw [if_pos taken] at values
    exact ⟨rfl, alike.insert values rfl⟩
  · rename_i free
    rw [if_neg free] at values
    exact ⟨rfl, alike.insert values alike.drawn_eq⟩

theorem registerNamed (alike : Alike suffix table other) {name : String}
    (named : ¬ Writer.IsLiteralName suffix name) (value : Json) :
    (other.registerNamed name value).1 = (table.registerNamed name value).1 ∧
      Alike suffix (table.registerNamed name value).2 (other.registerNamed name value).2 := by
  have get?_eq : other.get? name = table.get? name := lookup?_eq_of_entries alike.entries named
  simp only [BindTable.registerNamed, get?_eq]
  split
  · split
    · exact ⟨rfl, alike⟩
    · exact alike.register name fun _ => rfl
  · exact ⟨rfl, alike.insert (fun _ => rfl) alike.drawn_eq⟩

end BindTable.Alike

theorem BindTable.search_name (table : BindTable) (preferred : String) (tries drawn : Nat) :
    ∃ number, (table.search preferred tries drawn).1 = preferred ++ table.suffix number := by
  induction tries generalizing drawn with
  | zero => exact ⟨drawn + 1, rfl⟩
  | succ tries ih =>
      rw [search]
      split
      · exact ih (drawn + 1)
      · exact ⟨drawn + 1, rfl⟩

/-- A value without a name is given a literal name. -/
theorem BindTable.register_isLiteralName (table : BindTable) (value : Json) :
    Writer.IsLiteralName table.suffix (table.register Writer.literalName value).1 := by
  unfold register
  split
  · exact .inr (table.search_name Writer.literalName table.entries.length table.drawn)
  · exact .inl rfl

/-! ## Writers -/

/-- Two writers that differ only in the values of variables that are bound without a name. -/
structure Writer.Alike (suffix : Nat → String) (writer other : Writer) : Prop where
  /-- All but the bind variables is the same. -/
  rest_eq : other = { writer with binds := other.binds }
  /-- The bind variables are alike. -/
  binds : BindTable.Alike suffix writer.binds other.binds

/-- Two ways to end that are the same, with writers that are alike. -/
inductive Outcome.Alike (suffix : Nat → String) : Outcome → Outcome → Prop where
  | finished {writer other : Writer} (writers : Writer.Alike suffix writer other) :
      Alike suffix (.finished writer) (.finished other)
  | stopped {writer other : Writer} (writers : Writer.Alike suffix writer other) (error : Error) :
      Alike suffix (.stopped writer error) (.stopped other error)
  | crashed {writer other : Writer} (writers : Writer.Alike suffix writer other) :
      Alike suffix (.crashed writer) (.crashed other)

namespace Writer.Alike

variable {suffix : Nat → String} {writer other : Writer}

/-- A change of all but the bind variables, that does not look at them, keeps writers alike. -/
theorem map (alike : Alike suffix writer other) (change : Writer → Writer)
    (binds_eq : ∀ writer, (change writer).binds = writer.binds)
    (rest_eq : ∀ writer table,
      change { writer with binds := table } = { change writer with binds := table }) :
    Alike suffix (change writer) (change other) where
  rest_eq := by
    rw [binds_eq, alike.rest_eq, rest_eq]
  binds := by
    rw [binds_eq, binds_eq]
    exact alike.binds

theorem bound (alike : Alike suffix writer other) {name name' : String} {table table' : BindTable}
    (name_eq : name' = name) (tables : BindTable.Alike suffix table table') :
    Alike suffix ({ writer with binds := table }.append ("@" ++ name))
      ({ other with binds := table' }.append ("@" ++ name')) where
  rest_eq := by
    rw [alike.rest_eq, name_eq]
    rfl
  binds := tables

theorem apply (alike : Alike suffix writer other) {step step' : Step}
    (steps : Step.Alike (.hiding suffix) step step') :
    Alike suffix (writer.apply step) (other.apply step') := by
  cases steps with
  | literal _ =>
      -- the values differ, but the name is one that no value is looked up by
      obtain ⟨name_eq, tables⟩ := alike.binds.register literalName fun named =>
        absurd (alike.binds.suffix_eq ▸ writer.binds.register_isLiteralName _) named
      exact alike.bound name_eq tables
  | same _ named =>
      cases step with
      | bindLiteral value =>
          obtain ⟨name_eq, tables⟩ := alike.binds.register literalName fun _ => rfl
          exact alike.bound name_eq tables
      | bindNamed name value =>
          obtain ⟨name_eq, tables⟩ := alike.binds.registerNamed (named name rfl) value
          exact alike.bound name_eq tables
      | _ => exact alike.map (Writer.apply · _) (fun _ => rfl) fun _ _ => rfl

theorem mark_eq (alike : Alike suffix writer other) (segment : String) :
    other.mark segment = writer.mark segment := by
  rw [alike.rest_eq]
  rfl

theorem leave (alike : Alike suffix writer other) (mark : Mark) :
    Outcome.Alike suffix (Writer.leave mark writer) (Writer.leave mark other) := by
  obtain ⟨rest_eq, binds⟩ := alike
  rw [rest_eq]
  generalize other.binds = table at binds
  simp only [Writer.leave]
  split
  · exact .crashed ⟨rfl, binds⟩
  · split
    · split
      · exact .finished ⟨rfl, binds⟩
      · exact .stopped ⟨rfl, binds⟩ _
    · exact .finished ⟨rfl, binds⟩

theorem close {outcome outcome' : Outcome} (outcomes : Outcome.Alike suffix outcome outcome')
    (mark : Mark) :
    Outcome.Alike suffix (Writer.close mark outcome) (Writer.close mark outcome') := by
  cases outcomes with
  | finished writers => exact writers.leave mark
  | @stopped writer other writers error =>
      cases error with
      | notSupported thing =>
          have output_eq : other.output = writer.output := by rw [writers.rest_eq]
          simp only [Writer.close, recover?, output_eq]
          cases writer.output.truncate? mark.size with
          | none => exact .crashed writers
          | some kept =>
              have replaced := writers.map (withMarker mark · kept thing) (fun _ => rfl)
                fun _ _ => rfl
              exact replaced.leave mark
      | _ => exact .stopped writers _
  | crashed writers => exact .crashed writers

end Writer.Alike

/-- Scripts that are alike end alike. -/
theorem Script.Alike.run {suffix : Nat → String} {script script' : Script}
    (scripts : Script.Alike (.hiding suffix) script script') {writer other : Writer}
    (writers : Writer.Alike suffix writer other) :
    Outcome.Alike suffix (Writer.run script writer) (Writer.run script' other) := by
  induction scripts generalizing writer other with
  | done => exact .finished writers
  | fail error => exact .stopped writers error
  | step steps _ ih => exact ih (writers.apply steps)
  | visit segment _ _ bodyIh restIh =>
      have entered := writers.map (·.enter segment) (fun _ => rfl) fun _ _ => rfl
      have closed := Writer.Alike.close (bodyIh entered) (writer.mark segment)
      simp only [Writer.run, writers.mark_eq]
      generalize Writer.close _ (Writer.run _ (writer.enter segment)) = outcome,
        Writer.close _ (Writer.run _ (other.enter segment)) = outcome' at closed
      cases closed with
      | finished writers => exact restIh writers
      | stopped writers error => exact .stopped writers error
      | crashed writers => exact .crashed writers

end AqlPipeline
