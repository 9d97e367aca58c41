import AqlPipeline.Proofs.Expr.Rename
import AqlPipeline.Render.Part

/-!
# Scripts that differ in a name

A family of scripts, one for each name, is uniform if all of them do the same at the same places of
the tree, but for steps that write the name or declare a parameter of that name.  Nothing else may
depend on the name: neither which steps there are nor where the script fails.
-/

namespace AqlPipeline

/-- Scripts that do the same, but that they write or declare the name they are for. -/
inductive Script.Uniform : (String → Script) → Prop where
  | done : Uniform fun _ => .done
  | fail (error : Error) : Uniform fun _ => .fail error
  /-- The same step for each name. -/
  | step (first : Step) {rest : String → Script} (rests : Uniform rest) :
      Uniform fun name => .step first (rest name)
  /-- The name itself. -/
  | name {rest : String → Script} (rests : Uniform rest) :
      Uniform fun name => .step (.write name) (rest name)
  /-- A parameter of that name. -/
  | declare (type : TypeRef) {rest : String → Script} (rests : Uniform rest) :
      Uniform fun name => .step (.declare ⟨name, type⟩) (rest name)
  | visit (segment : String) {body rest : String → Script} (bodies : Uniform body)
      (rests : Uniform rest) : Uniform fun name => .visit segment (body name) (rest name)

/-- Lists of as many items for each name, with families of a kind at each place. -/
inductive Each {Item : Type} (Kind : (String → Item) → Prop) : (String → List Item) → Prop where
  | nil : Each Kind fun _ => []
  | cons {first : String → Item} {others : String → List Item} (firsts : Kind first)
      (rests : Each Kind others) : Each Kind fun name => first name :: others name

/-- Items that are missing for all names or for none, and if not, are a family of a kind. -/
inductive IfAny {Item : Type} (Kind : (String → Item) → Prop) : (String → Option Item) → Prop where
  | none : IfAny Kind fun _ => none
  | some {item : String → Item} (items : Kind item) : IfAny Kind fun name => some (item name)

theorem IfAny.none_or_some {Item : Type} {Kind : (String → Item) → Prop}
    {item : String → Option Item} (ifAny : IfAny Kind item) :
    (∀ name, item name = Option.none) ∨ ∃ found, Kind found ∧ ∀ name, item name = found name := by
  cases ifAny with
  | none => exact .inl fun _ => rfl
  | some items => exact .inr ⟨_, items, fun _ => rfl⟩

namespace Each

variable {Item Result : Type} {Kind : (String → Item) → Prop} {items : String → List Item}

theorem length_eq (each : Each Kind items) (name : String) :
    (items name).length = (items "").length := by
  induction each with
  | nil => rfl
  | cons _ _ ih => exact congrArg (· + 1) ih

theorem isEmpty_eq (each : Each Kind items) (name : String) :
    (items name).isEmpty = (items "").isEmpty := by
  cases each <;> rfl

theorem map {Kind' : (String → Result) → Prop} {change : Item → Result}
    (changed : ∀ {item}, Kind item → Kind' fun name => change (item name))
    (each : Each Kind items) : Each Kind' fun name => (items name).map change := by
  induction each with
  | nil => exact .nil
  | cons first _ ih => exact .cons (changed first) ih

theorem getElem? (each : Each Kind items) (index : Nat) :
    IfAny Kind fun name => (items name)[index]? := by
  induction each generalizing index with
  | nil => exact .none
  | cons first _ ih =>
      cases index with
      | zero => exact .some first
      | succ index => exact ih index

end Each

namespace Script.Uniform

/-- A script that is the same for each name. -/
theorem const (script : Script) : Uniform fun _ => script := by
  induction script with
  | done => exact .done
  | fail error => exact .fail error
  | step first _ ih => exact .step first ih
  | visit segment _ _ bodyIh restIh => exact .visit segment bodyIh restIh

theorem write (text : String) : Uniform fun _ => .write text :=
  const _

theorem append {first second : String → Script} (firsts : Uniform first)
    (seconds : Uniform second) : Uniform fun name => first name ++ second name := by
  induction firsts with
  | done => exact seconds
  | fail error => exact .fail error
  | step first _ ih => exact .step first ih
  | name _ ih => exact .name ih
  | declare type _ ih => exact .declare type ih
  | visit segment bodies _ _ ih => exact .visit segment bodies ih

theorem enter (segment : String) {body : String → Script} (bodies : Uniform body) :
    Uniform fun name => .enter segment (body name) :=
  .visit segment bodies .done

/-- A choice that does not depend on the name. -/
theorem ite {condition : Prop} [Decidable condition] {first second : String → Script}
    (firsts : condition → Uniform first) (seconds : ¬ condition → Uniform second) :
    Uniform fun name => if condition then first name else second name := by
  by_cases holds : condition
  · simpa only [if_pos holds] using firsts holds
  · simpa only [if_neg holds] using seconds holds

/-! ## Sequences -/

theorem join (delimiter : Script) {scripts : String → List Script} (each : Each Uniform scripts) :
    Uniform fun name => Script.join delimiter (scripts name) := by
  induction each with
  | nil => exact .done
  | cons first others ih =>
      cases others with
      | nil => exact first
      | cons second others => exact (first.append (const delimiter)).append ih

theorem visits (base : String) (index : Nat) {bodies : String → List Script}
    (each : Each Uniform bodies) :
    Each Uniform fun name => Script.visits base index (bodies name) := by
  induction each generalizing index with
  | nil => exact .nil
  | cons first _ ih => exact .cons (first.enter _) (ih (index + 1))

theorem inLine (base delimiter : String) {bodies : String → List Script}
    (each : Each Uniform bodies) :
    Uniform fun name => Script.inLine base delimiter (bodies name) :=
  join _ (visits base 0 each)

theorem onLines (base delimiter : String) {bodies : String → List Script}
    (each : Each Uniform bodies) :
    Uniform fun name => Script.onLines base delimiter (bodies name) :=
  join _ (visits base 0 each)

end Script.Uniform

/-! ## Parts -/

/-- The same part for each name: an expression in which an old name is replaced by the new one, with
scripts that differ in the name. -/
structure Part.Uniform (old : String) (part : String → Part) : Prop where
  /-- The expression is renamed. -/
  renamed : ∃ expr : Expr, ∀ name, (part name).expr = expr.renamed old name
  /-- The scripts differ in the name. -/
  scripts : ∀ placement, Script.Uniform fun name => (part name).scriptAt placement

namespace Part.Uniform

variable {old : String} {part : String → Part} {parts : String → List Part}

theorem visitAs (uniform : Part.Uniform old part) (segment : String) (placement : Placement) :
    Script.Uniform fun name => (part name).visitAs segment placement :=
  .enter segment (uniform.scripts placement)

theorem visit (uniform : Part.Uniform old part) (segment : String) :
    Script.Uniform fun name => (part name).visit segment :=
  .enter segment (uniform.scripts {})

theorem list_scripts (each : Each (Part.Uniform old) parts) :
    Each Script.Uniform fun name => (parts name).map Part.script :=
  each.map fun uniform => uniform.scripts {}

theorem inLine (base : String) (each : Each (Part.Uniform old) parts) :
    Script.Uniform fun name => Part.inLine base (parts name) :=
  .inLine base ", " (list_scripts each)

end Part.Uniform

end AqlPipeline
