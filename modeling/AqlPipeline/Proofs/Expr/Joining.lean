import AqlPipeline.Expr.Build
import AqlPipeline.Proofs.Expr.HiddenChange

/-!
# Joined strings

Strings are joined by nested additions in any grouping, by one call with each of them as an
argument, or by one call with an array of them.  What is known about the result before the query
runs does not depend on which of these is used.
-/

namespace AqlPipeline.Expr

/-- An expression that joins some others, in this order, by nested additions of strings. -/
inductive Joins : Expr → List Expr → Prop where
  /-- A single one stands for itself. -/
  | part (expr : Expr) : Joins expr [expr]
  /-- An addition joins what its operands join. -/
  | add {operator : BinaryOperator} {type : TypeRef} {left right : Expr} {first second : List Expr}
      (adds : joinsStrings operator = true) (string : type.isString = true)
      (lefts : Joins left first) (rights : Joins right second) :
      Joins (.binary operator left right type) (first ++ second)

/-- The value of some strings joined in order, which is known if each of them is. -/
def joinedValue? (parts : List Expr) : Option Json := do
  let values ← parts.mapM staticValue?
  return .string (String.join (values.map Json.joinedText))

/-! ## Texts of lists -/

theorem joinedTexts?_cons (expr : Expr) (exprs : List Expr) :
    joinedTexts? (expr :: exprs) =
      (expr.staticValue?.map Json.joinedText).bind fun text =>
        (joinedTexts? exprs).map (text ++ ·) := by
  rw [joinedTexts?]
  cases expr.staticValue? with
  | none => rfl
  | some value => cases joinedTexts? exprs <;> rfl

theorem joinedTexts?_append (first second : List Expr) :
    joinedTexts? (first ++ second) =
      (joinedTexts? first).bind fun text => (joinedTexts? second).map (text ++ ·) := by
  induction first with
  | nil => simp [joinedTexts?]
  | cons expr exprs ih =>
      rw [List.cons_append, joinedTexts?_cons, joinedTexts?_cons, ih]
      cases expr.staticValue? with
      | none => rfl
      | some value =>
          cases joinedTexts? exprs with
          | none => rfl
          | some text => cases joinedTexts? second <;> simp [String.append_assoc]

theorem joinedTexts?_map_string (parts : List Expr) :
    (joinedTexts? parts).map .string = joinedValue? parts := by
  have texts : joinedTexts? parts =
      (parts.mapM staticValue?).map fun values => String.join (values.map Json.joinedText) := by
    induction parts with
    | nil => rfl
    | cons expr exprs ih =>
        rw [joinedTexts?_cons, ih, List.mapM_cons]
        cases expr.staticValue? with
        | none => rfl
        | some value => cases exprs.mapM staticValue? <;> simp [String.join_cons]
  rw [texts, joinedValue?]
  cases parts.mapM staticValue? <;> rfl

/-! ## Additions -/

/-- What an addition contributes to a joined string is what the strings that it joins do: a value
that is no string is already written out as its text. -/
theorem Joins.joinedTexts? {joined : Expr} {parts : List Expr} (joins : Joins joined parts) :
    Expr.joinedTexts? parts = joined.staticValue?.map Json.joinedText := by
  induction joins with
  | part expr =>
      rw [joinedTexts?_cons]
      cases expr.staticValue? <;> simp [Expr.joinedTexts?]
  | @add operator type left right first second adds string _ _ leftIh rightIh =>
      rw [joinedTexts?_append, leftIh, rightIh, staticValue?_binary, adds, string]
      simp only [Expr.joinedTexts?]
      cases left.staticValue? with
      | none => rfl
      | some value => cases right.staticValue? <;> simp [Json.joinedText]

/-- Nested additions of two or more strings have the value of these. -/
theorem Joins.staticValue?_eq {joined : Expr} {parts : List Expr} (joins : Joins joined parts)
    (several : 2 ≤ parts.length) : joined.staticValue? = joinedValue? parts := by
  have texts := joins.joinedTexts?
  rw [← joinedTexts?_map_string, texts]
  cases joins with
  | part expr => simp at several
  | add adds string lefts rights =>
      rw [staticValue?_binary, adds, string]
      simp [Function.comp_def, Json.joinedText]

/-! ## All spellings -/

theorem joinedItems_of_several {arguments : List Expr} (several : 2 ≤ arguments.length) :
    joinedItems arguments = arguments := by
  unfold joinedItems
  split
  · simp at several
  · rfl

/-- However two or more strings are joined, by additions in any grouping, by a call with all of them
or by a call with an array of them, the value is the same: none if one of them has none, and else
the string of their texts in order. -/
theorem joined_strings_value {parts : List Expr} (several : 2 ≤ parts.length) {joined : Expr}
    (joins : Joins joined parts) {method : Method} (concat : method.isStringConcat = true)
    (target : Option Expr) (arrayType type : TypeRef) :
    joined.staticValue? = joinedValue? parts ∧
      (call target method parts type).staticValue? = joinedValue? parts ∧
      (call target method [.newArray .init parts arrayType] type).staticValue? =
        joinedValue? parts := by
  refine ⟨joins.staticValue?_eq several, ?_, ?_⟩
  · rw [staticValue?_call, if_pos concat, joinedItems_of_several several, joinedTexts?_map_string]
  · rw [staticValue?_call, if_pos concat, joinedItems, joinedTexts?_map_string]

/-- The parts of a version: a letter, a variable that is null, a number and a text. -/
def versionParts : List Expr :=
  [stringConstant "v", .captured "stage" .null .string, intConstant 2, stringConstant "-rc"]

/-- A version from the sum of its first two parts and that of its last two. -/
def versionSum : Expr :=
  .binary .add
    (.binary .add (stringConstant "v") (.captured "stage" .null .string) .string)
    (.binary .addChecked (intConstant 2) (stringConstant "-rc") .string) .string

theorem joined_strings_value_version :
    2 ≤ versionParts.length ∧ Joins versionSum versionParts ∧
      versionSum.staticValue? = some (.string "v2-rc") ∧
      (staticCall .string "Concat" versionParts .string).staticValue? = some (.string "v2-rc") ∧
      (staticCall .string "Concat" [arrayOfItems .object versionParts] .string).staticValue? =
        some (.string "v2-rc") := by
  have several : 2 ≤ versionParts.length := by decide
  have joins : Joins versionSum versionParts :=
    .add rfl rfl (.add rfl rfl (.part _) (.part _)) (.add rfl rfl (.part _) (.part _))
  have value : joinedValue? versionParts = some (.string "v2-rc") := rfl
  have concat : (⟨"Concat", .string, .static, false⟩ : Method).isStringConcat = true := by decide
  obtain ⟨sum, call, array⟩ :=
    joined_strings_value several joins concat none (.arrayOf .object 1) .string
  exact ⟨several, joins, sum.trans value, call.trans value, array.trans value⟩

end AqlPipeline.Expr
