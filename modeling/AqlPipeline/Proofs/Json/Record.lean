import AqlPipeline.Expr.Words
import AqlPipeline.Json.Record
import AqlPipeline.TypeRef.Codec
import Mathlib.Data.List.Nodup

/-!
# Records and words can be read back

A record whose fields have different names is read field by field, a choice splits into its tag and
the rest, and every word stands for one value only.
-/

namespace AqlPipeline.Json

/-! ## Records -/

/-- The field of a name that occurs once. -/
theorem slot?_of_mem {fields : List (String × Json)} {name : String} {value : Json}
    (distinct : (fields.map Prod.fst).Nodup) (member : (name, value) ∈ fields) :
    slot? fields name = some (some value) := by
  have single : fields.filter (fun field => field.1 == name) = [(name, value)] := by
    induction fields with
    | nil => cases member
    | cons first fields ih =>
        obtain ⟨unique, distinct⟩ := List.nodup_cons.mp distinct
        rcases List.mem_cons.mp member with rfl | member
        · have others : fields.filter (fun field => field.1 == name) = [] := by
            rw [List.filter_eq_nil_iff]
            intro field inside same
            exact unique (List.mem_map.mpr ⟨field, inside, beq_iff_eq.mp same⟩)
          simp [others]
        · have other : first.1 ≠ name := by
            intro same
            exact unique (List.mem_map.mpr ⟨_, member, same.symm⟩)
          simpa [other] using ih distinct member
  rw [slot?, single]

/-- All fields of a record are read, in their order. -/
theorem slots?_of_names {names : List String} {fields : List (String × Json)}
    (names_eq : names = fields.map Prod.fst) (distinct : names.Nodup) :
    slots? names (.object fields) = some (fields.map fun field => some field.2) := by
  subst names_eq
  have read : ∀ some_fields : List (String × Json), some_fields ⊆ fields →
      (some_fields.map Prod.fst).mapM (slot? fields) =
        some (some_fields.map fun field => some field.2) := by
    intro some_fields inside
    induction some_fields with
    | nil => rfl
    | cons first others ih =>
        have found := slot?_of_mem distinct (inside List.mem_cons_self)
        have rest := ih fun field member => inside (List.mem_cons_of_mem first member)
        simp [List.mapM_cons, found, rest]
  exact read fields (List.Subset.refl fields)

-- Not by `rfl`: as a definitional step it would have the reader unfolded when it is checked.
@[simp] theorem required_some {α : Type} (value : Json) (read : Json → Option α) :
    required (some value) read = read value := by
  rw [required, Option.bind_some]

@[simp] theorem withDefault_some {α : Type} (value : Json) (default : α)
    (read : Json → Option α) : withDefault (some value) default read = read value := by
  rw [withDefault]

@[simp] theorem nullable_object {α : Type} (fields : List (String × Json))
    (read : Json → Option α) :
    nullable (some (.object fields)) read = (read (.object fields)).map some := rfl

/-- Something that may be missing is read back if it is never null. -/
theorem nullable_ofOption {α : Type} {write : α → Json} {read : Json → Option α}
    (value : Option α) (kept : ∀ value, read (write value) = some value)
    (present : ∀ value, write value ≠ .null) :
    nullable (some (ofOption write value)) read = some value := by
  cases value with
  | none => rfl
  | some value =>
      have written := kept value
      have other := present value
      simp only [ofOption]
      generalize write value = json at written other
      cases json with
      | null => exact absurd rfl other
      | _ => simp [nullable, written]

theorem list?_map {α : Type} {write : α → Json} {read : Json → Option α} (values : List α)
    (kept : ∀ value, read (write value) = some value) :
    list? read (.array (values.map write)) = some values := by
  rw [list?]
  induction values with
  | nil => rfl
  | cons first others ih => simp [List.mapM_cons, kept first, ih]

theorem list?_cons {α : Type} {read : Json → Option α} {item : Json} {items : List Json}
    {value : α} {values : List α} (first : read item = some value)
    (others : list? read (.array items) = some values) :
    list? read (.array (item :: items)) = some (value :: values) := by
  rw [list?] at others ⊢
  simp [List.mapM_cons, first, others]

/-! ## Words -/

/-- Words that tell all values of a type apart. -/
class LawfulWords (α : Type) [Words α] : Prop where
  /-- Every value has a number. -/
  complete : ∀ value : α, value ∈ (Words.all : List α)
  /-- No two values have the same word. -/
  distinct : ((Words.all : List α).map Words.word).Nodup

section Words

variable {α : Type} [Words α] [LawfulWords α]

theorem ofWord?_word (value : α) : ofWord? (Words.word value) = some value := by
  have distinct : ((Words.all : List α).map Words.word).Nodup := LawfulWords.distinct
  have complete : value ∈ (Words.all : List α) := LawfulWords.complete value
  rw [ofWord?]
  generalize (Words.all : List α) = values at distinct complete
  induction values with
  | nil => cases complete
  | cons first values ih =>
      obtain ⟨unique, distinct⟩ := List.nodup_cons.mp distinct
      rcases List.mem_cons.mp complete with rfl | later
      · exact List.find?_cons_of_pos (beq_self_eq_true _)
      · have other : Words.word first ≠ Words.word value := by
          intro same
          exact unique (List.mem_map.mpr ⟨value, later, same.symm⟩)
        simpa [other] using ih distinct later

@[simp] theorem word?_ofValue (nesting : Nesting) (value : α) :
    word? nesting (ofValue value) = some value :=
  ofWord?_word value

@[simp] theorem form?_ofValue (nesting : Nesting) (value : α) :
    form? nesting (ofValue value) = some value :=
  ofWord?_word value

end Words

instance : LawfulWords BinaryOperator :=
  ⟨fun operator => by cases operator <;> simp [Words.all], by decide⟩

instance : LawfulWords UnaryOperator :=
  ⟨fun operator => by cases operator <;> simp [Words.all], by decide⟩

instance : LawfulWords MethodKind :=
  ⟨fun kind => by cases kind <;> simp [Words.all], by decide⟩

instance : LawfulWords ArrayKind :=
  ⟨fun kind => by cases kind <;> simp [Words.all], by decide⟩

instance : LawfulWords TypeTestKind :=
  ⟨fun kind => by cases kind <;> simp [Words.all], by decide⟩

instance : LawfulWords GotoKind :=
  ⟨fun kind => by cases kind <;> simp [Words.all], by decide⟩

instance : LawfulWords TypeKind :=
  ⟨fun kind => by cases kind <;> simp [Words.all], by decide⟩

instance : LawfulWords ExprKind :=
  ⟨fun kind => by cases kind <;> simp [Words.all], by decide⟩

instance : LawfulWords BindingKind :=
  ⟨fun kind => by cases kind <;> simp [Words.all], by decide⟩

instance : LawfulWords LateKind :=
  ⟨fun kind => by cases kind <;> simp [Words.all], by decide⟩

/-! ## Choices -/

/-- The tag of a choice is told from its other fields by its name. -/
theorem choice?_cons {tag : String} {form : Json} {fields : List (String × Json)}
    (apart : tag ∉ fields.map Prod.fst) :
    choice? tag (.object ((tag, form) :: fields)) = some (form, .object fields) := by
  have different : ∀ field ∈ fields, field.1 ≠ tag := by
    rintro field member rfl
    exact apart (List.mem_map_of_mem member)
  have tagless : fields.filter (fun field => field.1 == tag) = [] := by
    rw [List.filter_eq_nil_iff]
    intro field member
    simpa using different field member
  have untouched : fields.filter (fun field => field.1 != tag) = fields := by
    rw [List.filter_eq_self]
    intro field member
    simpa using different field member
  simp [choice?, tagless, untouched]

end AqlPipeline.Json
