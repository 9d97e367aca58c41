import AqlPipeline.Proofs.Expr.RightOperand
import AqlPipeline.Proofs.Script.Alike
import AqlPipeline.Render.Expr

/-!
# Changes of right operands that stay hidden

A change of a right operand stays hidden if the operand is written alike, and if it neither shows in
the value of the operand nor in whether it refers to a parameter.  Then the values of all
expressions around it are equal, or are both texts that may stand for each other.
-/

namespace AqlPipeline

/-- A change of right operands that does not show in how they are written, where the values of
members come from the expression itself. -/
structure HiddenChange (like : Likeness) (dialect : Dialect) where
  /-- The values of members come from the expression itself. -/
  captured : dialect.resolve = Dialect.resolveCaptured
  /-- The change of a right operand. -/
  apply : BinaryOperator → Expr → Expr
  /-- Only operands of operators with a symbol change. -/
  symbolless : ∀ operator expr, operator.symbol? = none → apply operator expr = expr
  /-- It does not show whether the operand depends on the query. -/
  mentions : ∀ operator expr, (apply operator expr).mentionsParameter = expr.mentionsParameter
  /-- The operand has a value as before, which may stand for the one before. -/
  known : ∀ operator expr,
    Option.Rel like.values expr.staticValue? (apply operator expr).staticValue?
  /-- Unless it is unchanged, the operand is written alike. -/
  written : ∀ operator expr, apply operator expr = expr ∨ ∀ segment,
    Script.Alike like (Render.rightOperand operator segment ⟨expr, expr.script dialect⟩)
      (Render.rightOperand operator segment
        ⟨apply operator expr, (apply operator expr).script dialect⟩)

variable {like : Likeness} {dialect : Dialect} (change : HiddenChange like dialect)

/-! ## Parameters below an expression -/

theorem HiddenChange.listMentions_late (operation : LateOperation) (arguments : List Expr) :
    Expr.listMentions (operation.onRight change.apply arguments) = Expr.listMentions arguments := by
  unfold LateOperation.onRight
  split
  · simp [Expr.listMentions, change.mentions]
  · rfl

mutual

theorem Expr.mentionsParameter_onRight :
    (expr : Expr) → (expr.onRight change.apply).mentionsParameter = expr.mentionsParameter
  | .binary operator left right type => by
    simp [Expr.onRight, Expr.mentionsParameter, change.mentions, left.mentionsParameter_onRight,
      right.mentionsParameter_onRight]
  | .unary operator operand type => Expr.optionMentions_onRight operand
  | .lambda parameters body type => body.mentionsParameter_onRight
  | .parameter reference => rfl
  | .constant value type => rfl
  | .captured name value type => rfl
  | .memberAccess owner member type => Expr.optionMentions_onRight owner
  | .newObject new => new.mentions_onRight
  | .call target method arguments type => by
    simp [Expr.onRight, Expr.mentionsParameter, Expr.optionMentions_onRight target,
      Expr.listMentions_onRight arguments]
  | .memberInit new bindings => by
    simp [Expr.onRight, Expr.mentionsParameter, new.mentions_onRight,
      Binding.listMentions_onRight bindings]
  | .listInit new initializers => by
    simp [Expr.onRight, Expr.mentionsParameter, new.mentions_onRight,
      ElementInit.listMentions_onRight initializers]
  | .newArray kind items type => Expr.listMentions_onRight items
  | .conditional test ifTrue ifFalse type => by
    simp [Expr.onRight, Expr.mentionsParameter, test.mentionsParameter_onRight,
      ifTrue.mentionsParameter_onRight, ifFalse.mentionsParameter_onRight]
  | .defaultValue type => rfl
  | .typeTest kind subject operand type => subject.mentionsParameter_onRight
  | .invocation function arguments type => by
    simp [Expr.onRight, Expr.mentionsParameter, function.mentionsParameter_onRight,
      Expr.listMentions_onRight arguments]
  | .index object arguments type => by
    simp [Expr.onRight, Expr.mentionsParameter, object.mentionsParameter_onRight,
      Expr.listMentions_onRight arguments]
  | .block locals expressions type => by
    simp [Expr.onRight, Expr.mentionsParameter, Expr.listMentions_onRight expressions]
  | .switch subject cases defaultBody type => by
    simp [Expr.onRight, Expr.mentionsParameter, subject.mentionsParameter_onRight,
      SwitchCase.listMentions_onRight cases, Expr.optionMentions_onRight defaultBody]
  | .tryCatch body handlers fault finalizer type => by
    simp [Expr.onRight, Expr.mentionsParameter, body.mentionsParameter_onRight,
      CatchBlock.listMentions_onRight handlers, Expr.optionMentions_onRight fault,
      Expr.optionMentions_onRight finalizer]
  | .label target type => rfl
  | .goto kind target value type => Expr.optionMentions_onRight value
  | .loop body type => body.mentionsParameter_onRight
  | .variablesGroup locals type => rfl
  | .debugMarker marker type => rfl
  | .late operation arguments type => by
    simp [Expr.onRight, Expr.mentionsParameter, change.listMentions_late,
      Expr.listMentions_onRight arguments]

theorem Expr.optionMentions_onRight : (operand : Option Expr) →
    Expr.optionMentions (Expr.optionOnRight change.apply operand) = Expr.optionMentions operand
  | none => rfl
  | some expr => expr.mentionsParameter_onRight

theorem Expr.listMentions_onRight : (exprs : List Expr) →
    Expr.listMentions (Expr.listOnRight change.apply exprs) = Expr.listMentions exprs
  | [] => rfl
  | expr :: exprs => by
    simp [Expr.listOnRight, Expr.listMentions, expr.mentionsParameter_onRight,
      Expr.listMentions_onRight exprs]

theorem NewObject.mentions_onRight :
    (new : NewObject) → Expr.newMentions (new.onRight change.apply) = Expr.newMentions new
  | .mk arguments _ _ => Expr.listMentions_onRight arguments

theorem Binding.mentions_onRight : (binding : Binding) →
    Expr.bindingMentions (binding.onRight change.apply) = Expr.bindingMentions binding
  | .assignment _ value => value.mentionsParameter_onRight
  | .nested _ bindings => Binding.listMentions_onRight bindings
  | .list _ initializers => ElementInit.listMentions_onRight initializers

theorem Binding.listMentions_onRight : (bindings : List Binding) →
    Expr.bindingsMention (Binding.listOnRight change.apply bindings) = Expr.bindingsMention bindings
  | [] => rfl
  | binding :: bindings => by
    simp [Binding.listOnRight, Expr.bindingsMention, binding.mentions_onRight,
      Binding.listMentions_onRight bindings]

theorem ElementInit.mentions_onRight : (init : ElementInit) →
    Expr.initializerMentions (init.onRight change.apply) = Expr.initializerMentions init
  | .mk arguments => Expr.listMentions_onRight arguments

theorem ElementInit.listMentions_onRight : (inits : List ElementInit) →
    Expr.initializersMention (ElementInit.listOnRight change.apply inits) =
      Expr.initializersMention inits
  | [] => rfl
  | init :: inits => by
    simp [ElementInit.listOnRight, Expr.initializersMention, init.mentions_onRight,
      ElementInit.listMentions_onRight inits]

theorem SwitchCase.mentions_onRight : (first : SwitchCase) →
    Expr.caseMentions (first.onRight change.apply) = Expr.caseMentions first
  | .mk testValues body => by
    simp [SwitchCase.onRight, Expr.caseMentions, Expr.listMentions_onRight testValues,
      body.mentionsParameter_onRight]

theorem SwitchCase.listMentions_onRight : (cases : List SwitchCase) →
    Expr.casesMention (SwitchCase.listOnRight change.apply cases) = Expr.casesMention cases
  | [] => rfl
  | first :: cases => by
    simp [SwitchCase.listOnRight, Expr.casesMention, first.mentions_onRight,
      SwitchCase.listMentions_onRight cases]

theorem CatchBlock.mentions_onRight : (handler : CatchBlock) →
    Expr.handlerMentions (handler.onRight change.apply) = Expr.handlerMentions handler
  | .mk _ _ filter body => by
    simp [CatchBlock.onRight, Expr.handlerMentions, Expr.optionMentions_onRight filter,
      body.mentionsParameter_onRight]

theorem CatchBlock.listMentions_onRight : (handlers : List CatchBlock) →
    Expr.handlersMention (CatchBlock.listOnRight change.apply handlers) =
      Expr.handlersMention handlers
  | [] => rfl
  | handler :: handlers => by
    simp [CatchBlock.listOnRight, Expr.handlersMention, handler.mentions_onRight,
      CatchBlock.listMentions_onRight handlers]

end

/-! ## Values known before the query runs -/

namespace Likeness

/-- Values that are the same, or texts that may stand for each other. -/
def Known (like : Likeness) (value other : Json) : Prop :=
  value = other ∨
    like.values value other ∧ ∃ text text', value = .string text ∧ other = .string text'

theorem values_of_known {like : Likeness} {value other : Option Json}
    (known : Option.Rel like.Known value other) : Option.Rel like.values value other := by
  cases known with
  | none => exact .none
  | some known =>
      rcases known with rfl | ⟨values, -⟩
      · exact .some (like.equivalence.refl _)
      · exact .some values

theorem values_trans {like : Likeness} {first second third : Option Json}
    (values : Option.Rel like.values first second) (next : Option.Rel like.values second third) :
    Option.Rel like.values first third := by
  cases values with
  | none => exact next
  | some values =>
      cases next with
      | some values' => exact .some (like.equivalence.trans values values')

/-- What is only asked of values that are not texts is the same for both. -/
theorem bind_eq_of_known {like : Likeness} {value other : Option Json}
    (known : Option.Rel like.Known value other) {Answer : Type} {ask : Json → Option Answer}
    (texts : ∀ text, ask (.string text) = none) : value.bind ask = other.bind ask := by
  cases known with
  | none => rfl
  | some known =>
      rcases known with rfl | ⟨-, text, text', rfl, rfl⟩
      · rfl
      · exact (texts text).trans (texts text').symm

end Likeness

/-- The texts of two lists of expressions, both known or both not, that may stand for each other. -/
def Likeness.Texts (like : Likeness) : Option String → Option String → Prop :=
  Option.Rel fun text other => like.values (.string text) (.string other)

theorem Likeness.texts_cons {like : Likeness} {expr expr' : Expr} {exprs exprs' : List Expr}
    (first : Option.Rel like.values expr.staticValue? expr'.staticValue?)
    (others : like.Texts (Expr.joinedTexts? exprs) (Expr.joinedTexts? exprs')) :
    like.Texts (Expr.joinedTexts? (expr :: exprs)) (Expr.joinedTexts? (expr' :: exprs')) := by
  simp only [Expr.joinedTexts?]
  generalize expr.staticValue? = value, expr'.staticValue? = value' at first
  generalize Expr.joinedTexts? exprs = text, Expr.joinedTexts? exprs' = text' at others
  cases first with
  | none => exact .none
  | some values =>
      cases others with
      | none => exact .none
      | some texts => exact .some (like.texts (·.joinedText ++ ·.joinedText) values texts)

namespace Expr

theorem memberValue?_some (owner : Expr) (member : Member) :
    memberValue? (some owner) member = owner.staticValue?.bind (Json.member? member.name) := by
  cases value : owner.staticValue? with
  | none => simp [memberValue?, value]
  | some value' => cases value' <;> simp [memberValue?, value, Json.member?]

theorem staticValue?_memberAccess (owner : Option Expr) (member : Member) (type : TypeRef) :
    (Expr.memberAccess owner member type).staticValue? = memberValue? owner member := by
  cases owner <;> rfl

theorem staticValue?_binary (operator : BinaryOperator) (left right : Expr) (type : TypeRef) :
    (Expr.binary operator left right type).staticValue? =
      if joinsStrings operator && type.isString then (joinedTexts? [left, right]).map .string
      else none := by
  rw [staticValue?]
  simp only [joinedTexts?]
  split
  · cases left.staticValue? with
    | none => rfl
    | some first =>
        cases right.staticValue? with
        | none => rfl
        | some second => simp
  · rfl

theorem staticValue?_conditional (test ifTrue ifFalse : Expr) (type : TypeRef) :
    (Expr.conditional test ifTrue ifFalse type).staticValue? =
      (test.staticValue?.bind Json.bool?).bind fun holds =>
        if holds then ifTrue.staticValue? else ifFalse.staticValue? := by
  rw [staticValue?]
  split
  · simp [*, Json.bool?]
  · simp [*, Json.bool?]
  · cases value : test.staticValue? with
    | none => rfl
    | some value' => cases value' <;> simp_all [Json.bool?]

/-- The expressions whose texts a call joins: the items of a single array, or all arguments. -/
def joinedItems : List Expr → List Expr
  | [.newArray .init items _] => items
  | arguments => arguments

theorem staticValue?_call (target : Option Expr) (method : Method) (arguments : List Expr)
    (type : TypeRef) :
    (Expr.call target method arguments type).staticValue? =
      if method.isStringConcat then (joinedTexts? (joinedItems arguments)).map .string
      else none := by
  by_cases single : ∃ items itemsType, arguments = [.newArray .init items itemsType]
  · obtain ⟨items, itemsType, rfl⟩ := single
    rw [staticValue?, joinedItems]
  · have other : ∀ items itemsType, arguments = [.newArray .init items itemsType] → False :=
      fun items itemsType eq => single ⟨items, itemsType, eq⟩
    rw [staticValue?, joinedItems] <;> exact other

theorem joinedItems_onRight (apply : BinaryOperator → Expr → Expr) (arguments : List Expr) :
    joinedItems (listOnRight apply arguments) = listOnRight apply (joinedItems arguments) := by
  match arguments with
  | [] => rfl
  | [expr] =>
      cases expr with
      | newArray kind => cases kind <;> rfl
      | _ => rfl
  | _ :: _ :: _ => simp [joinedItems, listOnRight]

theorem sizeOf_joinedItems_le (arguments : List Expr) :
    sizeOf (joinedItems arguments) ≤ sizeOf arguments := by
  unfold joinedItems
  split
  · simp
    omega
  · exact Nat.le_refl _

theorem memberValue?_eq_of_known {owner owner' : Expr} (member : Member)
    (known : Option.Rel like.Known owner.staticValue? owner'.staticValue?) :
    memberValue? (some owner) member = memberValue? (some owner') member := by
  rw [memberValue?_some, memberValue?_some]
  exact Likeness.bind_eq_of_known known fun _ => rfl

end Expr

theorem Likeness.known_refl (like : Likeness) (value : Option Json) :
    Option.Rel like.Known value value := by
  cases value with
  | none => exact .none
  | some value => exact .some (.inl rfl)

theorem Likeness.known_join {like : Likeness} {text text' : Option String}
    (texts : like.Texts text text') :
    Option.Rel like.Known (text.map .string) (text'.map .string) := by
  cases texts with
  | none => exact .none
  | some texts => exact .some (.inr ⟨texts, _, _, rfl, rfl⟩)

mutual

theorem Expr.staticValue?_onRight : (expr : Expr) →
    Option.Rel like.Known expr.staticValue? (expr.onRight change.apply).staticValue?
  | .constant value type => like.known_refl _
  | .captured name value type => like.known_refl _
  | .memberAccess none member type => like.known_refl _
  | .memberAccess (some owner) member type => by
    change Option.Rel like.Known (Expr.memberValue? (some owner) member)
      (Expr.memberValue? (some (owner.onRight change.apply)) member)
    rw [Expr.memberValue?_eq_of_known member owner.staticValue?_onRight]
    exact like.known_refl _
  | .unary operator none type => .none
  | .unary operator (some operand) type => by
    simp only [Expr.onRight, Expr.optionOnRight, Expr.staticValue?]
    split
    · exact operand.staticValue?_onRight
    · exact .none
  | .binary operator left right type => by
    have lefts := Likeness.values_of_known left.staticValue?_onRight
    have rights := Likeness.values_trans (Likeness.values_of_known right.staticValue?_onRight)
      (change.known operator (right.onRight change.apply))
    rw [Expr.onRight, Expr.staticValue?_binary, Expr.staticValue?_binary]
    split
    · exact Likeness.known_join
        (Likeness.texts_cons lefts (Likeness.texts_cons rights (.some (like.equivalence.refl _))))
    · exact .none
  | .call target method arguments type => by
    -- the recursion is not structural: the items of an array are joined in its place
    have smaller := Expr.sizeOf_joinedItems_le arguments
    rw [Expr.onRight, Expr.staticValue?_call, Expr.staticValue?_call, Expr.joinedItems_onRight]
    split
    · exact Likeness.known_join (Expr.joinedTexts?_onRight (Expr.joinedItems arguments))
    · exact .none
  | .conditional test ifTrue ifFalse type => by
    rw [Expr.onRight, Expr.staticValue?_conditional, Expr.staticValue?_conditional,
      Likeness.bind_eq_of_known test.staticValue?_onRight fun _ => rfl]
    cases (test.onRight change.apply).staticValue?.bind Json.bool? with
    | none => exact .none
    | some holds =>
        cases holds with
        | true => exact ifTrue.staticValue?_onRight
        | false => exact ifFalse.staticValue?_onRight
  | .lambda .. | .parameter _ | .newObject _ | .memberInit .. | .listInit .. | .newArray ..
  | .defaultValue _ | .typeTest .. | .invocation .. | .index .. | .block .. | .switch ..
  | .tryCatch .. | .label .. | .goto .. | .loop .. | .variablesGroup .. | .debugMarker ..
  | .late .. => .none
termination_by expr => sizeOf expr

theorem Expr.joinedTexts?_onRight : (exprs : List Expr) →
    like.Texts (Expr.joinedTexts? exprs)
      (Expr.joinedTexts? (Expr.listOnRight change.apply exprs))
  | [] => .some (like.equivalence.refl _)
  | expr :: exprs =>
    Likeness.texts_cons (Likeness.values_of_known expr.staticValue?_onRight)
      (Expr.joinedTexts?_onRight exprs)
termination_by exprs => sizeOf exprs

end

end AqlPipeline
