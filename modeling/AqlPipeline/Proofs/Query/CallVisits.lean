import AqlPipeline.Expr.Build
import AqlPipeline.Proofs.Script.Visited
import AqlPipeline.Proofs.Writer.Visits
import AqlPipeline.Query

/-!
# What calls visit

A call visits its target and each of its arguments once, whether it is written as a clause, as an
element, as a test for membership or as a call; when strings are joined, the items of an array may
take its place.  Three kinds of calls leave something out: joined strings have no place for a
target, nor for what stands beside an array of items, and a test for membership in a type has none
for what is tested.
-/

namespace AqlPipeline

/-- A script that does not fail by itself and makes some visits, in any order. -/
def Script.MakesAll (script : Script) (visits : List (String × Script)) : Prop :=
  ∃ made, script.Makes made ∧ made.Perm visits

theorem Script.Makes.all {script : Script} {visits : List (String × Script)}
    (makes : script.Makes visits) : script.MakesAll visits :=
  ⟨visits, makes, .refl visits⟩

/-! ## Clauses and calls -/

namespace Render

open Script

/-- The visit of the part in front of a call, if there is one. -/
def targetVisits : Option Part → List (String × Script)
  | none => []
  | some target => [("Object", target.script)]

/-- The visits of the arguments of a call. -/
def argumentVisits (index : Nat) (arguments : List Part) : List (String × Script) :=
  numberedVisits "Arguments" index (arguments.map Part.script)

/-- Whether a stage writes its arguments, and not only a value that is known before. -/
def IsWritten (stage : Stage) : Prop :=
  stage ≠ .startsWith ∧ stage ≠ .take ∧ stage ≠ .skip

variable {dialect : Dialect} {target : Option Part} {method : Method} {arguments : List Part}
  {visited : Script} {visits : List (String × Script)}

theorem arguments_make (index : Nat) (arguments : List Part) :
    Makes (join (write ", ") (keys index arguments)) (argumentVisits index arguments) :=
  .join_visits (.write _) _ index _

theorem clause_makes {stage : Stage} (written : IsWritten stage) (own : stage ≠ .contains)
    (makes : visited.Makes visits) (empty : arguments = [] → visits = []) :
    (clause stage arguments visited).Makes visits := by
  obtain ⟨starts, takes, skips⟩ := written
  cases stage with
  | filter | select | groupBy => exact .step _ makes
  | orderBy | orderByDescending | thenBy | thenByDescending => exact .step _ (makes.append_write _)
  | singleOrDefault =>
      cases arguments with
      | nil =>
          rw [empty rfl]
          exact .step _ .done
      | cons =>
          have yields : Makes (.step .yieldIterator .done) [] := .step _ .done
          have filters := (Makes.step (.write "\nFILTER ") makes).append yields
          rwa [List.append_nil] at filters
  | contains => exact absurd rfl own
  | startsWith => exact absurd rfl starts
  | take => exact absurd rfl takes
  | skip => exact absurd rfl skips

theorem applied_makes (written : ∀ stage, Stage.ofName? method.name = some stage → IsWritten stage)
    (own : Stage.ofName? method.name ≠ some .contains) (makes : visited.Makes visits)
    (empty : arguments = [] → visits = []) : (applied method arguments visited).Makes visits := by
  unfold applied
  split
  · rename_i stage named
    exact clause_makes (written stage named) (fun same => own (same ▸ named)) makes empty
  · exact .step _ (makes.append_write _)

/-- A test for membership has been written when its clause is due. -/
theorem applied_contains (contains : Stage.ofName? method.name = some .contains) :
    applied method arguments visited = .done := by
  rw [applied, contains]
  rfl

theorem received_makes {receiver : Script} {own : List (String × Script)}
    (written : ∀ stage, Stage.ofName? method.name = some stage → IsWritten stage)
    (receivers : receiver.Makes own) (makes : visited.Makes visits)
    (empty : arguments = [] → visits = []) :
    (received method receiver arguments visited).MakesAll (own ++ visits) := by
  unfold received
  split
  · rename_i contains
    rw [applied_contains contains]
    -- what is tested stands in front of what contains it
    refine ⟨_, ((makes.append_write _).append receivers).append .done, ?_⟩
    rw [List.append_nil]
    exact List.perm_append_comm
  · rename_i other
    exact (receivers.append (applied_makes written other makes empty)).all

/-- A call on something visits all its parts, unless it fails. -/
theorem plainCall_makes
    (written : ∀ stage, Stage.ofName? method.name = some stage → IsWritten stage)
    (held : target = none → method.kind ≠ .extension →
      Stage.ofName? method.name = some .contains → arguments = []) :
    (∃ error, plainCall dialect target method arguments = .fail error) ∨
      (plainCall dialect target method arguments).MakesAll
        (targetVisits target ++ argumentVisits 0 arguments) := by
  have none_visited : ∀ index, arguments = [] → argumentVisits index arguments = [] := by
    rintro index rfl
    rfl
  unfold plainCall
  split
  · exact .inr (received_makes written (.enter _ _) (arguments_make 0 arguments) (none_visited 0))
  · cases arguments with
    | nil => exact .inl ⟨_, rfl⟩
    | cons first others =>
        have receivers : Makes (first.visit (numbered "Arguments" 0))
            [(numbered "Arguments" 0, first.script)] := .enter _ _
        have others_visited : others = [] → argumentVisits 1 others = [] := by
          rintro rfl
          rfl
        have received := received_makes written receivers (arguments_make 1 others) others_visited
        exact .inr received
  · rename_i unextended
    refine .inr (Makes.all (.step _ ?_))
    by_cases contains : Stage.ofName? method.name = some .contains
    · obtain rfl := held rfl unextended contains
      have nothing : Makes (applied method [] (join (write ", ") (keys 0 []))) [] := by
        rw [applied_contains contains]
        exact .done
      exact nothing
    · exact applied_makes written contains (arguments_make 0 arguments) (none_visited 0)

/-- A call that does not join strings visits all its parts, unless it fails. -/
theorem otherCall_makes {itemsAt : Nat → List Script}
    (written : ∀ stage, Stage.ofName? method.name = some stage → IsWritten stage)
    (held : target = none → method.kind ≠ .extension →
      Stage.ofName? method.name = some .contains → arguments = [])
    (unformatted : method.isStringFormat = true → constantFormat? arguments = none) :
    (∃ error, otherCall dialect target method arguments itemsAt = .fail error) ∨
      (otherCall dialect target method arguments itemsAt).MakesAll
        (targetVisits target ++ argumentVisits 0 arguments) := by
  have plain : (∃ error, plainCall dialect target method arguments = .fail error) ∨
      (plainCall dialect target method arguments).MakesAll
        (targetVisits target ++ argumentVisits 0 arguments) := plainCall_makes written held
  unfold otherCall
  split
  · cases target with
    | none => exact .inl ⟨_, rfl⟩
    | some target =>
        have elements : Makes (element "Object" target (keys 0 arguments))
            (targetVisits (some target) ++ argumentVisits 0 arguments) :=
          (((Makes.enter _ _).append_write _).append (arguments_make 0 arguments)).append_write _
        exact .inr elements.all
  · split
    · rename_i formats
      rw [unformatted formats]
      exact plain
    · exact plain

end Render

/-! ## Calls as expressions -/

namespace Expr

open Script

/-- Whether an expression is an array without items. -/
def isEmptyArray : Expr → Bool
  | .newArray .init [] _ => true
  | _ => false

/-- The visits of the arguments of a call, each at its number.  When strings are joined, each item
of an array may be visited instead of the array. -/
inductive ArgumentVisits (dialect : Dialect) (method : Method) :
    (index : Nat) → List Expr → List (String × Script) → Prop where
  | nil (index : Nat) : ArgumentVisits dialect method index [] []
  | whole {index : Nat} (argument : Expr) {arguments : List Expr}
      {visits : List (String × Script)}
      (others : ArgumentVisits dialect method (index + 1) arguments visits) :
      ArgumentVisits dialect method index (argument :: arguments)
        ((numbered "Arguments" index, argument.script dialect {}) :: visits)
  | items {index : Nat} (items : List Expr) (type : TypeRef) {arguments : List Expr}
      {visits : List (String × Script)} (joins : method.isStringConcat = true)
      (others : ArgumentVisits dialect method (index + 1) arguments visits) :
      ArgumentVisits dialect method index (.newArray .init items type :: arguments)
        (numberedVisits (Render.itemsSegment index) 0 (scripts dialect items) ++ visits)

/-- Some visits, in any order, are those of the target of a call and of each of its arguments. -/
def VisitsAll (dialect : Dialect) (target : Option Expr) (method : Method) (arguments : List Expr)
    (visits : List (String × Script)) : Prop :=
  ∃ own, ArgumentVisits dialect method 0 arguments own ∧
    visits.Perm ((target.map fun target => ("Object", target.script dialect {})).toList ++ own)

/-- The calls that leave out their target or an argument. -/
inductive LeavesOut : Option Expr → Method → List Expr → Prop where
  /-- The items of an array are joined, and not what stands beside it. -/
  | besideItems {target : Option Expr} {method : Method} (items : List Expr) (type : TypeRef)
      {others : List Expr} (joins : method.isStringConcat = true)
      (beside : target.isSome ∨ ∃ other ∈ others, other.isEmptyArray = false) :
      LeavesOut target method (.newArray .init items type :: others)
  /-- Strings are joined, and not the target. -/
  | besideStrings (target : Expr) {method : Method} {arguments : List Expr}
      (joins : method.isStringConcat = true) (given : arguments ≠ [])
      (strings : ∀ argument ∈ arguments, argument.type.isString) :
      LeavesOut (some target) method arguments
  /-- There is nothing that could contain the arguments but the type of the method. -/
  | membership {method : Method} {arguments : List Expr}
      (contains : Stage.ofName? method.name = some .contains) (held : method.kind ≠ .extension)
      (given : arguments ≠ []) : LeavesOut none method arguments

variable {dialect : Dialect} {target : Option Expr} {method : Method} {arguments : List Expr}
  {type : TypeRef} {placement : Placement} {writer after : Writer}

theorem parts_scripts (dialect : Dialect) (exprs : List Expr) :
    (parts dialect exprs).map Part.script = scripts dialect exprs := by
  induction exprs with
  | nil => rfl
  | cons expr exprs ih =>
      rw [parts, List.map_cons, ih, scripts]
      rfl

theorem targetVisits_optionalPart (dialect : Dialect) (target : Option Expr) :
    Render.targetVisits (optionalPart dialect target) =
      (target.map fun target => ("Object", target.script dialect {})).toList := by
  cases target <;> rfl

/-- All arguments may be visited as they are. -/
theorem argumentVisits_whole (dialect : Dialect) (method : Method) (index : Nat)
    (arguments : List Expr) :
    ArgumentVisits dialect method index arguments
      (numberedVisits "Arguments" index (scripts dialect arguments)) := by
  induction arguments generalizing index with
  | nil => exact .nil index
  | cons argument arguments ih => exact .whole argument (ih (index + 1))

theorem VisitsAll.of_parts {visits : List (String × Script)}
    (all : visits.Perm (Render.targetVisits (optionalPart dialect target) ++
      Render.argumentVisits 0 (parts dialect arguments))) :
    VisitsAll dialect target method arguments visits := by
  refine ⟨_, argumentVisits_whole dialect method 0 arguments, ?_⟩
  rwa [Render.argumentVisits, parts_scripts, targetVisits_optionalPart] at all

/-! ## Joined strings -/

theorem script_joinedItems (joins : method.isStringConcat = true) (items others : List Expr)
    (itemsType : TypeRef) :
    (call target method (.newArray .init items itemsType :: others) type).script dialect placement =
      inLine (Render.itemsSegment 0) " + " (scripts dialect items) := by
  rw [Expr.script, Render.call, if_pos joins, parts]
  rfl

theorem visitsMade_joinedItems (joins : method.isStringConcat = true) {items others : List Expr}
    {itemsType : TypeRef}
    (finished : Writer.run ((call target method (.newArray .init items itemsType :: others)
      type).script dialect placement) writer = .finished after) :
    Writer.visitsMade ((call target method (.newArray .init items itemsType :: others)
        type).script dialect placement) writer =
      numberedVisits (Render.itemsSegment 0) 0 (scripts dialect items) := by
  rw [script_joinedItems joins] at finished ⊢
  exact Writer.visitsMade_eq (.inLine _ _ _) finished

theorem exists_of_isItems {part : Part} (holds : part.isItems = true) :
    ∃ items type, part.expr = .newArray .init items type := by
  unfold Part.isItems at holds
  split at holds
  · rename_i items type found
    exact ⟨items, type, found⟩
  · cases holds

theorem parts_strings (dialect : Dialect) (exprs : List Expr) :
    ((parts dialect exprs).all fun part => part.expr.type.isString) =
      exprs.all fun expr => expr.type.isString := by
  induction exprs with
  | nil => rfl
  | cons expr exprs ih => rw [parts, List.all_cons, ih, List.all_cons]

/-- A call joins the items of an array, or its arguments if all of them are strings, or it is
written like other calls. -/
theorem script_call_cases (dialect : Dialect) (target : Option Expr) (method : Method)
    (arguments : List Expr) (type : TypeRef) (placement : Placement) :
    (method.isStringConcat = true ∧
      ∃ items itemsType others, arguments = .newArray .init items itemsType :: others) ∨
    (method.isStringConcat = true ∧ arguments ≠ [] ∧
      (∀ argument ∈ arguments, argument.type.isString = true) ∧
      (call target method arguments type).script dialect placement =
        inLine "Arguments" " + " (scripts dialect arguments)) ∨
    ((method.isStringConcat = true → arguments ≠ [] →
        ¬ ∀ argument ∈ arguments, argument.type.isString = true) ∧
      (call target method arguments type).script dialect placement =
        Render.otherCall dialect (optionalPart dialect target) method (parts dialect arguments)
          (itemScriptsAt dialect arguments)) := by
  rw [Expr.script, Render.call]
  by_cases joins : method.isStringConcat = true
  · rw [if_pos joins]
    cases arguments with
    | nil => exact .inr (.inr ⟨fun _ given => absurd rfl given, rfl⟩)
    | cons first others =>
        have strings_eq := parts_strings dialect (first :: others)
        simp only [parts] at strings_eq
        simp only [parts, Render.concatenation?, strings_eq]
        by_cases holds : Part.isItems ⟨first, first.script dialect⟩ = true
        · obtain ⟨items, itemsType, rfl⟩ := exists_of_isItems holds
          exact .inl ⟨joins, items, itemsType, others, rfl⟩
        · rw [if_neg holds]
          by_cases strings : ((first :: others).all fun expr => expr.type.isString) = true
          · rw [if_pos strings]
            have scripts_eq := parts_scripts dialect (first :: others)
            rw [parts] at scripts_eq
            refine .inr (.inl ⟨joins, List.cons_ne_nil _ _, List.all_eq_true.mp strings, ?_⟩)
            rw [scripts_eq]
          · rw [if_neg strings]
            exact .inr (.inr ⟨fun _ _ all => strings (List.all_eq_true.mpr all), rfl⟩)
  · exact .inr (.inr ⟨fun joined => absurd joined joins, if_neg joins⟩)

/-! ## Calls that visit all -/

/-- Of an array without items there is nothing to visit item by item. -/
theorem argumentVisits_empty (dialect : Dialect) (joins : method.isStringConcat = true)
    (index : Nat) (empty : ∀ argument ∈ arguments, argument.isEmptyArray = true) :
    ArgumentVisits dialect method index arguments [] := by
  induction arguments generalizing index with
  | nil => exact .nil index
  | cons argument arguments ih =>
      obtain ⟨own, others⟩ := List.forall_mem_cons.mp empty
      have rest := ih (index + 1) others
      unfold isEmptyArray at own
      split at own
      · exact .items [] _ joins rest
      · cases own

theorem isWritten_of_uncounted {name : String}
    (uncounted : ∀ counted ∈ ["Take", "Skip", "StartsWith"],
      Text.sameUpToCase counted name = false)
    (stage : Stage) (named : Stage.ofName? name = some stage) : Render.IsWritten stage := by
  unfold Stage.ofName? at named
  have same : Text.sameUpToCase stage.methodName name = true := by simpa using List.find?_some named
  have other : ∀ counted ∈ ["Take", "Skip", "StartsWith"], stage.methodName ≠ counted := by
    rintro counted member rfl
    rw [uncounted _ member] at same
    cases same
  refine ⟨?_, ?_, ?_⟩ <;> rintro rfl <;> exact other _ (by decide) rfl

theorem constantFormat?_parts (dialect : Dialect)
    (unformatted : ∀ format formatType others,
      arguments ≠ .constant (.string format) formatType :: others) :
    Render.constantFormat? (parts dialect arguments) = none := by
  cases arguments with
  | nil => rfl
  | cons first others =>
      rw [parts, Render.constantFormat?]
      split
      · rename_i format formatType found
        exact absurd (congrArg (· :: others) found) (unformatted format formatType others)
      · rfl

theorem visitsAll_of_not_leavesOut
    (unformatted : method.isStringFormat = true → ∀ format formatType others,
      arguments ≠ .constant (.string format) formatType :: others)
    (uncounted : ∀ counted ∈ ["Take", "Skip", "StartsWith"],
      Text.sameUpToCase counted method.name = false)
    (kept : ¬ LeavesOut target method arguments)
    (finished : Writer.run ((call target method arguments type).script dialect placement) writer =
      .finished after) :
    VisitsAll dialect target method arguments
      (Writer.visitsMade ((call target method arguments type).script dialect placement)
        writer) := by
  rcases script_call_cases dialect target method arguments type placement with
    ⟨joins, items, itemsType, others, rfl⟩ | ⟨joins, given, strings, script_eq⟩ | ⟨-, script_eq⟩
  · rw [visitsMade_joinedItems joins finished]
    have empty : ∀ other ∈ others, other.isEmptyArray = true := by
      intro other member
      cases visible : other.isEmptyArray with
      | true => rfl
      | false =>
          exact absurd (.besideItems items itemsType joins (.inr ⟨other, member, visible⟩)) kept
    cases target with
    | none =>
        refine ⟨_, .items items itemsType joins (argumentVisits_empty dialect joins 1 empty), ?_⟩
        rw [List.append_nil]
        exact .refl _
    | some target => exact absurd (.besideItems items itemsType joins (.inl rfl)) kept
  · rw [script_eq] at finished ⊢
    rw [Writer.visitsMade_eq (.inLine _ _ _) finished]
    cases target with
    | none => exact ⟨_, argumentVisits_whole dialect method 0 arguments, .refl _⟩
    | some target => exact absurd (.besideStrings target joins given strings) kept
  · have held : optionalPart dialect target = none → method.kind ≠ .extension →
        Stage.ofName? method.name = some .contains → parts dialect arguments = [] := by
      intro untargeted unextended contains
      cases target with
      | some target => cases untargeted
      | none =>
          cases arguments with
          | nil => rfl
          | cons first others =>
              exact absurd (.membership contains unextended (List.cons_ne_nil _ _)) kept
    rw [script_eq] at finished ⊢
    rcases Render.otherCall_makes (isWritten_of_uncounted uncounted) held
      (fun formats => constantFormat?_parts dialect (unformatted formats)) with
      ⟨error, fails⟩ | ⟨made, makes, all⟩
    · rw [fails] at finished
      cases finished
    · rw [Writer.visitsMade_eq makes finished]
      exact .of_parts all

/-! ## Calls that leave something out -/

/-- The visits of the items of a sequence leave out the target. -/
theorem not_visitsAll_of_target {base : String} (apart : stem base ≠ stem "Object") (owner : Expr)
    (index : Nat) (bodies : List Script) :
    ¬ VisitsAll dialect (some owner) method arguments (numberedVisits base index bodies) := by
  rintro ⟨own, -, perm⟩
  have member : ("Object", owner.script dialect {}) ∈ numberedVisits base index bodies :=
    perm.mem_iff.mpr List.mem_cons_self
  obtain ⟨number, same⟩ := exists_number_of_mem member
  have same : "Object" = numbered base number := same
  exact apart (by rw [same, stem_numbered])

/-- The items of an argument are visited below its segment. -/
theorem covers_items (index number : Nat) :
    Trail.Covers (numbered "Arguments" index) (numbered (Render.itemsSegment index) number) := by
  refine .inr (.inr ⟨"Expressions[" ++ toString number ++ "]", ?_⟩)
  apply String.toList_inj.mp
  simp [Render.itemsSegment, numbered]

/-- Arguments at different numbers are visited at segments of their own. -/
theorem number_eq_of_covers {first second : Nat} {path : String}
    (firsts : Trail.Covers (numbered "Arguments" first) path)
    (seconds : Trail.Covers (numbered "Arguments" second) path) : first = second := by
  have named : ∀ index, numbered "Arguments" index ≠ "" :=
    fun index => ne_empty_of_isAllBlank (isAllBlank_numbered (by decide) index)
  have single : ∀ index, Trail.joined [numbered "Arguments" index] = numbered "Arguments" index :=
    fun index => by simp [Trail.joined]
  apply numbered_injective "Arguments"
  have points_eq : points (numbered "Arguments" first) = points (numbered "Arguments" second) := by
    rw [points_numbered, points_numbered]
  rw [← single] at firsts seconds
  exact Trail.eq_of_covers (named first) (named second) points_eq firsts seconds

/-- An argument other than an array without items is visited at its number or below. -/
theorem ArgumentVisits.exists_visit {index : Nat} {visits : List (String × Script)}
    (all : ArgumentVisits dialect method index arguments visits) {argument : Expr}
    (member : argument ∈ arguments) (visible : argument.isEmptyArray = false) :
    ∃ number, index ≤ number ∧
      ∃ visit ∈ visits, Trail.Covers (numbered "Arguments" number) visit.1 := by
  induction all with
  | nil => cases member
  | @whole index first arguments visits _ ih =>
      rcases List.mem_cons.mp member with rfl | later
      · exact ⟨index, Nat.le_refl _, _, List.mem_cons_self, .inl rfl⟩
      · obtain ⟨number, bound, visit, made, covers⟩ := ih later
        exact ⟨number, by omega, visit, List.mem_cons_of_mem _ made, covers⟩
  | @items index items itemsType arguments visits _ _ ih =>
      rcases List.mem_cons.mp member with rfl | later
      · cases items with
        | nil => cases visible
        | cons item items =>
            exact ⟨index, Nat.le_refl _, _, List.mem_cons_self, covers_items index 0⟩
      · obtain ⟨number, bound, visit, made, covers⟩ := ih later
        exact ⟨number, by omega, visit, List.mem_append_right _ made, covers⟩

/-- An argument behind the first one is visited apart from it. -/
theorem ArgumentVisits.exists_visit_behind {index : Nat} {visits : List (String × Script)}
    {first : Expr} (all : ArgumentVisits dialect method index (first :: arguments) visits)
    {argument : Expr} (member : argument ∈ arguments) (visible : argument.isEmptyArray = false) :
    ∃ number, index < number ∧
      ∃ visit ∈ visits, Trail.Covers (numbered "Arguments" number) visit.1 := by
  cases all with
  | whole _ others =>
      obtain ⟨number, behind, visit, made, covers⟩ := others.exists_visit member visible
      exact ⟨number, behind, visit, List.mem_cons_of_mem _ made, covers⟩
  | items _ _ _ others =>
      obtain ⟨number, behind, visit, made, covers⟩ := others.exists_visit member visible
      exact ⟨number, behind, visit, List.mem_append_right _ made, covers⟩

/-- Unless strings are joined, each argument is visited. -/
theorem ArgumentVisits.eq_nil {index : Nat} {visits : List (String × Script)}
    (all : ArgumentVisits dialect method index arguments visits)
    (apart : method.isStringConcat = false) (nothing : visits = []) : arguments = [] := by
  cases all with
  | nil => rfl
  | whole => cases nothing
  | items _ _ joins => exact absurd joins (by simp [apart])

/-- The method of a stage has none of the names that are not those of stages. -/
theorem ne_name_of_stage {stage : Stage} (named : Stage.ofName? method.name = some stage)
    {name : String} (unknown : Stage.ofName? name = none) : method.name ≠ name := by
  rintro rfl
  rw [unknown] at named
  cases named

theorem not_isStringConcat_of_stage {stage : Stage}
    (named : Stage.ofName? method.name = some stage) : method.isStringConcat = false := by
  have other : method.name ≠ "Concat" := ne_name_of_stage named (by decide)
  simp [Method.isStringConcat, other]

theorem not_isStringFormat_of_stage {stage : Stage}
    (named : Stage.ofName? method.name = some stage) : method.isStringFormat = false := by
  have other : method.name ≠ "Format" := ne_name_of_stage named (by decide)
  simp [Method.isStringFormat, other]

/-- A test for membership in a type visits nothing. -/
theorem script_membership (contains : Stage.ofName? method.name = some .contains)
    (held : method.kind ≠ .extension) :
    (∃ error, (call none method arguments type).script dialect placement = .fail error) ∨
      ((call none method arguments type).script dialect placement).Makes [] := by
  simp only [Expr.script, Render.call, Render.otherCall, not_isStringConcat_of_stage contains,
    not_isStringFormat_of_stage contains, Bool.false_eq_true, if_false]
  split
  · exact .inl ⟨_, rfl⟩
  · refine .inr ?_
    unfold Render.plainCall
    split
    · contradiction
    · contradiction
    · simp only [Render.applied_contains contains]
      exact .write _

/-- What such a call leaves out, it does not visit. -/
theorem LeavesOut.not_visitsAll (leaves : LeavesOut target method arguments)
    (finished : Writer.run ((call target method arguments type).script dialect placement) writer =
      .finished after) :
    ¬ VisitsAll dialect target method arguments
      (Writer.visitsMade ((call target method arguments type).script dialect placement)
        writer) := by
  have items_apart : stem (Render.itemsSegment 0) ≠ stem "Object" := by decide
  have arguments_apart : stem "Arguments" ≠ stem "Object" := by decide
  intro all
  cases leaves with
  | besideItems items itemsType joins beside =>
      rw [visitsMade_joinedItems joins finished] at all
      cases target with
      | some owner => exact not_visitsAll_of_target items_apart owner 0 _ all
      | none =>
          obtain targeted | ⟨other, member, visible⟩ := beside
          · cases targeted
          · -- all visits are below the first argument, and that of another one would not be
            obtain ⟨own, visits, perm⟩ := all
            obtain ⟨number, behind, visit, made, covers⟩ :=
              visits.exists_visit_behind member visible
            obtain ⟨item, visit_eq⟩ := exists_number_of_mem (perm.mem_iff.mpr made)
            rw [visit_eq] at covers
            have first : number = 0 := number_eq_of_covers covers (covers_items 0 item)
            omega
  | besideStrings owner joins given strings =>
      rcases script_call_cases dialect (some owner) method arguments type placement with
        ⟨-, items, itemsType, others, rfl⟩ | ⟨-, -, -, script_eq⟩ | ⟨other, -⟩
      · rw [visitsMade_joinedItems joins finished] at all
        exact not_visitsAll_of_target items_apart owner 0 _ all
      · rw [script_eq] at finished all
        rw [Writer.visitsMade_eq (.inLine _ _ _) finished] at all
        exact not_visitsAll_of_target arguments_apart owner 0 _ all
      · exact other joins given strings
  | membership contains held given =>
      rcases script_membership contains held with ⟨error, fails⟩ | makes
      · rw [fails] at finished
        cases finished
      · rw [Writer.visitsMade_eq makes finished] at all
        obtain ⟨own, visits, perm⟩ := all
        exact given (visits.eq_nil (not_isStringConcat_of_stage contains) perm.nil_eq.symm)

/-! ## All calls -/

/-- A call that comes to its end visits its target and each of its arguments once, unless it is one
of those that leave something out: those never do. -/
theorem call_visits_all_iff
    (unformatted : method.isStringFormat = true → ∀ format formatType others,
      arguments ≠ .constant (.string format) formatType :: others)
    (uncounted : ∀ counted ∈ ["Take", "Skip", "StartsWith"],
      Text.sameUpToCase counted method.name = false)
    (finished : Writer.run ((call target method arguments type).script dialect placement) writer =
      .finished after) :
    VisitsAll dialect target method arguments
        (Writer.visitsMade ((call target method arguments type).script dialect placement) writer) ↔
      ¬ LeavesOut target method arguments :=
  ⟨fun all leaves => leaves.not_visitsAll finished all,
    fun kept => visitsAll_of_not_leavesOut unformatted uncounted kept finished⟩

/-- A test whether the name of a user is contained in members of theirs, by a method of some
kind. -/
def nameTest (kind : MethodKind) (containers : List String) : Method × List Expr :=
  let user : Expr := .parameter ⟨"u", .named "User"⟩
  (⟨"Contains", .named "Admins", kind, false⟩,
    containers.map (memberOf user · (.arrayOf .string 1)) ++ [memberOf user "Name" .string])

theorem call_visits_all_iff_nameTest :
    let test := nameTest .extension ["Tags"]
    let script := (call none test.1 test.2 .boolean).script .aql {}
    ¬ LeavesOut none test.1 test.2 ∧
      ∃ after, Writer.run script (.start {}) = .finished after ∧
        after.output.text = "u.Name\nIN u.Tags" ∧
        VisitsAll .aql none test.1 test.2 (Writer.visitsMade script (.start {})) := by
  have kept : ¬ LeavesOut none (nameTest .extension ["Tags"]).1
      (nameTest .extension ["Tags"]).2 := by
    intro leaves
    cases leaves with
    | membership _ held => exact held rfl
  refine ⟨kept, _, rfl, ?_, ?_⟩
  · rfl
  · refine (call_visits_all_iff ?_ ?_ rfl).mpr kept
    · intro formats
      cases formats
    · decide

/-- A test for membership in a type is written without what is tested. -/
theorem nameTest_left_out :
    let test := nameTest .static []
    let script := (call none test.1 test.2 .boolean).script .aql {}
    ∃ after, Writer.run script (.start {}) = .finished after ∧ after.output.text = "Admins" ∧
      Writer.visitsMade script (.start {}) = [] ∧
      ¬ VisitsAll .aql none test.1 test.2 (Writer.visitsMade script (.start {})) := by
  refine ⟨_, rfl, ?_, rfl, ?_⟩
  · rfl
  · exact LeavesOut.not_visitsAll (.membership (by decide) (by decide) (List.cons_ne_nil _ _)) rfl

end Expr

end AqlPipeline
