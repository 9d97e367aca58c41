import AqlPipeline.Expr.Decode
import AqlPipeline.Expr.Encode
import AqlPipeline.Proofs.Expr.MapNodes
import AqlPipeline.Proofs.Json.Record

/-!
# Reading back what was written

An expression written as JSON is read back as it was, but for one thing: null stands for a value
that is missing, so a static member whose value is null comes back without a value.

The readers count levels. The depth of the written value bounds all of them, and every item inside
is less deep than the item around it.
-/

namespace AqlPipeline

open Json (Nesting slots? required withDefault nullable list? slots?_of_names depth itemsDepth
  membersDepth)

/-! ## Types -/

theorem uint32?_toNat (number : UInt32) :
    Json.uint32? (.integer number.toNat) = some number := by
  have small : number.toNat < UInt32.size := number.toNat_lt
  have fits : 0 ≤ (number.toNat : Int) ∧ (number.toNat : Int) < UInt32.size := by omega
  rw [Json.uint32?, if_pos fits, Int.toNat_natCast, UInt32.ofNat_toNat]

theorem list?_string (texts : List String) :
    list? Json.string? (.array (texts.map .string)) = some texts :=
  Json.list?_map texts fun _ => rfl

namespace TypeRef

theorem slots?_encode (name kind : Json) (names : List String) :
    slots? ["name", "kind", "assignableTo"]
        (.object ([("name", name), ("kind", kind)] ++ assignableField names)) =
      some [some name, some kind,
        if names = [] then none else some (.array (names.map .string))] := by
  cases names with
  | nil => rfl
  | cons first names => simp [assignableField, slots?_of_names]

theorem withDefault_assignable (names : List String) :
    withDefault (if names = [] then none else some (Json.array (names.map .string))) []
      (list? Json.string?) = some names := by
  cases names with
  | nil => rfl
  | cons first names => exact list?_string (first :: names)

theorem decode_encode (nesting : Nesting) (type : TypeRef) {levels : Nat}
    (enough : type.encode.depth < levels) :
    decode levels nesting type.encode = some type := by
  induction type generalizing levels with
  | plain name kind names =>
      obtain ⟨levels, rfl⟩ := Nat.exists_eq_add_one_of_ne_zero (Nat.ne_zero_of_lt enough)
      have plain : arrayKind? nesting (Json.ofValue kind) = none := rfl
      simp only [encode, decode, slots?_encode]
      simp [withDefault_assignable, plain, Json.string?]
  | array name element rank names ih =>
      obtain ⟨levels, rfl⟩ := Nat.exists_eq_add_one_of_ne_zero (Nat.ne_zero_of_lt enough)
      have deeper : element.encode.depth < levels := by
        simp only [encode, depth, membersDepth, List.cons_append, List.nil_append] at enough
        omega
      simp only [encode, decode, slots?_encode]
      simp [withDefault_assignable, arrayKind?, slots?_of_names, ih deeper, uint32?_toNat,
        Json.string?]

@[simp] theorem ofJson?_encode (nesting : Nesting) (type : TypeRef) :
    ofJson? nesting type.encode = some type :=
  decode_encode nesting type (Nat.lt_succ_self _)

end TypeRef

@[simp] theorem typeSlot?_encode (nesting : Nesting) (type : TypeRef) :
    typeSlot? nesting (some type.encode) = some type :=
  TypeRef.ofJson?_encode nesting type

/-! ## Items without expressions -/

@[simp] theorem string?_string (text : String) : Json.string? (.string text) = some text := rfl

theorem nullable_string (text : Option String) :
    nullable (some (Json.ofOption .string text)) Json.string? = some text := by
  refine Json.nullable_ofOption text string?_string ?_
  rintro text ⟨⟩

@[simp] theorem bool?_bool (value : Bool) : Json.bool? (.bool value) = some value := rfl

@[simp] theorem Parameter.decode_fields (nesting : Nesting) (parameter : Parameter) :
    Parameter.decode nesting (.object parameter.fields) = some parameter := by
  simp [Parameter.decode, Parameter.fields, slots?_of_names]

theorem Parameter.list?_encode (nesting : Nesting) (parameters : List Parameter) :
    list? (Parameter.decode nesting) (.array (parameters.map Parameter.encode)) =
      some parameters :=
  Json.list?_map parameters fun parameter => parameter.decode_fields nesting

theorem Parameter.nullable_encode (nesting : Nesting) (parameter : Option Parameter) :
    nullable (some (Json.ofOption Parameter.encode parameter)) (Parameter.decode nesting) =
      some parameter := by
  refine Json.nullable_ofOption parameter (fun parameter => parameter.decode_fields nesting) ?_
  rintro parameter ⟨⟩

/-- A member as it is read back: a value that is null is no value. -/
def Member.withoutNull (member : Member) : Member :=
  match member.value with
  | some .null => { member with value := none }
  | _ => member

theorem Member.decode_encode (member : Member) :
    Member.decode id member.encode = some member.withoutNull := by
  obtain ⟨name, declaringType, value⟩ := member
  have valued : ((nullable (some (value.getD .null)) fun value => some value).bind fun value =>
      some (Member.mk name declaringType value)) =
        some (Member.mk name declaringType value).withoutNull := by
    rcases value with _ | value
    · rfl
    · cases value <;> rfl
  simpa [Member.decode, Member.encode, slots?_of_names, nullable_string] using valued

@[simp] theorem Method.decode_encode (method : Method) :
    Method.decode method.encode = some method := by
  simp [Method.decode, Method.encode, slots?_of_names]

@[simp] theorem LabelTarget.decode_encode (target : LabelTarget) :
    LabelTarget.decode target.encode = some target := by
  simp [LabelTarget.decode, LabelTarget.encode, slots?_of_names, nullable_string]

theorem LabelTarget.nullable_encode (target : Option LabelTarget) :
    nullable (some (Json.ofOption LabelTarget.encode target)) LabelTarget.decode =
      some target := by
  refine Json.nullable_ofOption target LabelTarget.decode_encode ?_
  rintro target ⟨⟩

@[simp] theorem LateOperation.decode_encode (operation : LateOperation) :
    LateOperation.decode operation.encode = some operation := by
  cases operation <;>
    simp [LateOperation.decode, LateOperation.encode, LateOperation.fields, LateOperation.kind,
      taggedObject, Json.choice?_cons, slots?_of_names]

/-! ## Expressions -/

/-- An expression as it is read back, if what is inside it is kept. -/
def Expr.withoutNull : Expr → Expr
  | .memberAccess owner member type => .memberAccess owner member.withoutNull type
  | expr => expr

/-- The form of a written expression is found, and its fields are read. -/
theorem Expr.decode_tagged {levels : Nat} {nesting : Nesting} {kind : ExprKind}
    {fields : List (String × Json)} (apart : "kind" ∉ fields.map Prod.fst) :
    Expr.decode id (levels + 1) nesting (taggedObject "kind" kind fields) =
      Expr.decodeForm id (Expr.decode id levels .inner) levels (.object fields) kind := by
  simp [Expr.decode, taggedObject, Json.choice?_cons apart]

mutual

/-- A written expression is read back, with as many levels as it is deep. -/
theorem Expr.decode_encode : (expr : Expr) → (levels : Nat) → (nesting : Nesting) →
    expr.encode.depth < levels →
    Expr.decode id levels nesting expr.encode = some (expr.mapNodes Expr.withoutNull)
  | .binary _ left right _, levels + 1, nesting, enough => by
    simp only [Expr.encode, taggedObject, depth, membersDepth] at enough
    have left_back := left.decode_encode levels .inner (by omega)
    have right_back := right.decode_encode levels .inner (by omega)
    simp [Expr.encode, Expr.decode_tagged, Expr.decodeForm, slots?_of_names, left_back, right_back,
      Expr.mapNodes, Expr.withoutNull]
  | .unary _ operand _, levels + 1, nesting, enough => by
    simp only [Expr.encode, taggedObject, depth, membersDepth] at enough
    have operand_back := Expr.optionDecode_encode operand levels (by omega)
    simp [Expr.encode, Expr.decode_tagged, Expr.decodeForm, slots?_of_names, operand_back,
      Expr.mapNodes, Expr.withoutNull]
  | .lambda parameters body _, levels + 1, nesting, enough => by
    simp only [Expr.encode, taggedObject, depth, membersDepth] at enough
    have body_back := body.decode_encode levels .inner (by omega)
    simp [Expr.encode, Expr.decode_tagged, Expr.decodeForm, slots?_of_names,
      Parameter.list?_encode, body_back, Expr.mapNodes, Expr.withoutNull]
  | .parameter reference, levels + 1, nesting, _ => by
    have apart : "kind" ∉ reference.fields.map Prod.fst := by simp [Parameter.fields]
    simp [Expr.encode, Expr.decode_tagged apart, Expr.decodeForm, Expr.mapNodes, Expr.withoutNull]
  | .constant _ _, levels + 1, nesting, _ => by
    simp [Expr.encode, Expr.decode_tagged, Expr.decodeForm, slots?_of_names, Expr.mapNodes,
      Expr.withoutNull]
  | .captured _ _ _, levels + 1, nesting, _ => by
    simp [Expr.encode, Expr.decode_tagged, Expr.decodeForm, slots?_of_names, Expr.mapNodes,
      Expr.withoutNull]
  | .memberAccess owner member _, levels + 1, nesting, enough => by
    simp only [Expr.encode, taggedObject, depth, membersDepth] at enough
    have owner_back := Expr.optionDecode_encode owner levels (by omega)
    simp [Expr.encode, Expr.decode_tagged, Expr.decodeForm, slots?_of_names, owner_back,
      Member.decode_encode, Expr.mapNodes, Expr.withoutNull]
  | .newObject new, levels + 1, nesting, enough => by
    simp only [Expr.encode, taggedObject, depth, membersDepth] at enough
    have new_back := new.decode_encode levels .inner (by omega)
    have apart : "kind" ∉ (newFields new).map Prod.fst := by
      cases new
      simp [newFields]
    simp [Expr.encode, Expr.decode_tagged apart, Expr.decodeForm, new_back, Expr.mapNodes,
      Expr.withoutNull]
  | .call target _ arguments _, levels + 1, nesting, enough => by
    simp only [Expr.encode, taggedObject, depth, membersDepth] at enough
    have target_back := Expr.optionDecode_encode target levels (by omega)
    have arguments_back := Expr.listDecode_encode arguments levels (by omega)
    simp [Expr.encode, Expr.decode_tagged, Expr.decodeForm, slots?_of_names, target_back,
      arguments_back, Expr.mapNodes, Expr.withoutNull]
  | .memberInit new bindings, levels + 1, nesting, enough => by
    simp only [Expr.encode, taggedObject, depth, membersDepth] at enough
    have new_back := new.decode_encode levels .inner (by omega)
    have bindings_back := Binding.listDecode_encode bindings levels levels (by omega) (by omega)
    simp [Expr.encode, Expr.decode_tagged, Expr.decodeForm, slots?_of_names, new_back,
      bindings_back, Expr.mapNodes, Expr.withoutNull]
  | .listInit new initializers, levels + 1, nesting, enough => by
    simp only [Expr.encode, taggedObject, depth, membersDepth] at enough
    have new_back := new.decode_encode levels .inner (by omega)
    have initializers_back := ElementInit.listDecode_encode initializers levels (by omega)
    simp [Expr.encode, Expr.decode_tagged, Expr.decodeForm, slots?_of_names, new_back,
      initializers_back, Expr.mapNodes, Expr.withoutNull]
  | .newArray _ items _, levels + 1, nesting, enough => by
    simp only [Expr.encode, taggedObject, depth, membersDepth] at enough
    have items_back := Expr.listDecode_encode items levels (by omega)
    simp [Expr.encode, Expr.decode_tagged, Expr.decodeForm, slots?_of_names, items_back,
      Expr.mapNodes, Expr.withoutNull]
  | .conditional test ifTrue ifFalse _, levels + 1, nesting, enough => by
    simp only [Expr.encode, taggedObject, depth, membersDepth] at enough
    have test_back := test.decode_encode levels .inner (by omega)
    have true_back := ifTrue.decode_encode levels .inner (by omega)
    have false_back := ifFalse.decode_encode levels .inner (by omega)
    simp [Expr.encode, Expr.decode_tagged, Expr.decodeForm, slots?_of_names, test_back, true_back,
      false_back, Expr.mapNodes, Expr.withoutNull]
  | .defaultValue _, levels + 1, nesting, _ => by
    simp [Expr.encode, Expr.decode_tagged, Expr.decodeForm, slots?_of_names, Expr.mapNodes,
      Expr.withoutNull]
  | .typeTest _ subject _ _, levels + 1, nesting, enough => by
    simp only [Expr.encode, taggedObject, depth, membersDepth] at enough
    have subject_back := subject.decode_encode levels .inner (by omega)
    simp [Expr.encode, Expr.decode_tagged, Expr.decodeForm, slots?_of_names, subject_back,
      Expr.mapNodes, Expr.withoutNull]
  | .invocation function arguments _, levels + 1, nesting, enough => by
    simp only [Expr.encode, taggedObject, depth, membersDepth] at enough
    have function_back := function.decode_encode levels .inner (by omega)
    have arguments_back := Expr.listDecode_encode arguments levels (by omega)
    simp [Expr.encode, Expr.decode_tagged, Expr.decodeForm, slots?_of_names, function_back,
      arguments_back, Expr.mapNodes, Expr.withoutNull]
  | .index object arguments _, levels + 1, nesting, enough => by
    simp only [Expr.encode, taggedObject, depth, membersDepth] at enough
    have object_back := object.decode_encode levels .inner (by omega)
    have arguments_back := Expr.listDecode_encode arguments levels (by omega)
    simp [Expr.encode, Expr.decode_tagged, Expr.decodeForm, slots?_of_names, object_back,
      arguments_back, Expr.mapNodes, Expr.withoutNull]
  | .block locals expressions _, levels + 1, nesting, enough => by
    simp only [Expr.encode, taggedObject, depth, membersDepth] at enough
    have expressions_back := Expr.listDecode_encode expressions levels (by omega)
    simp [Expr.encode, Expr.decode_tagged, Expr.decodeForm, slots?_of_names,
      Parameter.list?_encode, expressions_back, Expr.mapNodes, Expr.withoutNull]
  | .switch subject cases defaultBody _, levels + 1, nesting, enough => by
    simp only [Expr.encode, taggedObject, depth, membersDepth] at enough
    have subject_back := subject.decode_encode levels .inner (by omega)
    have cases_back := SwitchCase.listDecode_encode cases levels (by omega)
    have default_back := Expr.optionDecode_encode defaultBody levels (by omega)
    simp [Expr.encode, Expr.decode_tagged, Expr.decodeForm, slots?_of_names, subject_back,
      cases_back, default_back, Expr.mapNodes, Expr.withoutNull]
  | .tryCatch body handlers fault finalizer _, levels + 1, nesting, enough => by
    simp only [Expr.encode, taggedObject, depth, membersDepth] at enough
    have body_back := body.decode_encode levels .inner (by omega)
    have handlers_back := CatchBlock.listDecode_encode handlers levels (by omega)
    have fault_back := Expr.optionDecode_encode fault levels (by omega)
    have finalizer_back := Expr.optionDecode_encode finalizer levels (by omega)
    simp [Expr.encode, Expr.decode_tagged, Expr.decodeForm, slots?_of_names, body_back,
      handlers_back, fault_back, finalizer_back, Expr.mapNodes, Expr.withoutNull]
  | .label _ _, levels + 1, nesting, _ => by
    simp [Expr.encode, Expr.decode_tagged, Expr.decodeForm, slots?_of_names, Expr.mapNodes,
      Expr.withoutNull]
  | .goto _ target value _, levels + 1, nesting, enough => by
    simp only [Expr.encode, taggedObject, depth, membersDepth] at enough
    have value_back := Expr.optionDecode_encode value levels (by omega)
    simp [Expr.encode, Expr.decode_tagged, Expr.decodeForm, slots?_of_names,
      LabelTarget.nullable_encode, value_back, Expr.mapNodes, Expr.withoutNull]
  | .loop body _, levels + 1, nesting, enough => by
    simp only [Expr.encode, taggedObject, depth, membersDepth] at enough
    have body_back := body.decode_encode levels .inner (by omega)
    simp [Expr.encode, Expr.decode_tagged, Expr.decodeForm, slots?_of_names, body_back,
      Expr.mapNodes, Expr.withoutNull]
  | .variablesGroup locals _, levels + 1, nesting, _ => by
    simp [Expr.encode, Expr.decode_tagged, Expr.decodeForm, slots?_of_names,
      Parameter.list?_encode, Expr.mapNodes, Expr.withoutNull]
  | .debugMarker marker _, levels + 1, nesting, _ => by
    simp [Expr.encode, Expr.decode_tagged, Expr.decodeForm, DebugMarker.fields, slots?_of_names,
      uint32?_toNat, Expr.mapNodes, Expr.withoutNull]
  | .late _ arguments _, levels + 1, nesting, enough => by
    simp only [Expr.encode, taggedObject, depth, membersDepth] at enough
    have arguments_back := Expr.listDecode_encode arguments levels (by omega)
    simp [Expr.encode, Expr.decode_tagged, Expr.decodeForm, slots?_of_names, arguments_back,
      Expr.mapNodes, Expr.withoutNull]

/-- So is one that may be missing: null is no expression. -/
theorem Expr.optionDecode_encode : (expr : Option Expr) → (levels : Nat) →
    (encodeOption expr).depth < levels →
    nullable (some (encodeOption expr)) (Expr.decode id levels .inner) =
      some (Expr.optionMapNodes Expr.withoutNull expr)
  | none, _, _ => rfl
  | some expr, levels, enough => by
    have back := expr.decode_encode levels .inner enough
    obtain ⟨fields, written⟩ : ∃ fields, expr.encode = .object fields := by
      cases expr <;> exact ⟨_, rfl⟩
    rw [encodeOption, written, Json.nullable_object, ← written, back]
    rfl

/-- So are several. -/
theorem Expr.listDecode_encode : (exprs : List Expr) → (levels : Nat) →
    itemsDepth (encodeList exprs) < levels →
    list? (Expr.decode id levels .inner) (.array (encodeList exprs)) =
      some (Expr.listMapNodes Expr.withoutNull exprs)
  | [], _, _ => rfl
  | expr :: exprs, levels, enough => by
    simp only [encodeList, itemsDepth] at enough
    exact Json.list?_cons (expr.decode_encode levels .inner (by omega))
      (Expr.listDecode_encode exprs levels (by omega))

/-- A written constructor call is read back. -/
theorem NewObject.decode_encode : (new : NewObject) → (levels : Nat) → (nesting : Nesting) →
    membersDepth (newFields new) < levels →
    NewObject.decode (Expr.decode id levels .inner) nesting (.object (newFields new)) =
      some (new.mapNodes Expr.withoutNull)
  | .mk arguments members type, levels, nesting, enough => by
    simp only [newFields, depth, membersDepth] at enough
    have arguments_back := Expr.listDecode_encode arguments levels (by omega)
    simp [newFields, NewObject.decode, slots?_of_names, arguments_back, list?_string,
      NewObject.mapNodes]

/-- A written binding is read back, with levels for bindings in bindings apart from those for the
expressions inside. -/
theorem Binding.decode_encode : (binding : Binding) → (levels bindingLevels : Nat) →
    (encodeBinding binding).depth < levels → (encodeBinding binding).depth < bindingLevels →
    Binding.decode (Expr.decode id levels .inner) bindingLevels .inner (encodeBinding binding) =
      some (binding.mapNodes Expr.withoutNull)
  | .assignment _ value, levels, bindingLevels + 1, enough, _ => by
    simp only [encodeBinding, taggedObject, depth, membersDepth] at enough
    have value_back := value.decode_encode levels .inner (by omega)
    simp [encodeBinding, Binding.decode, taggedObject, Json.choice?_cons, slots?_of_names,
      value_back, Binding.mapNodes]
  | .nested _ bindings, levels, bindingLevels + 1, enough, nested => by
    simp only [encodeBinding, taggedObject, depth, membersDepth] at enough nested
    have bindings_back :=
      Binding.listDecode_encode bindings levels bindingLevels (by omega) (by omega)
    simp [encodeBinding, Binding.decode, taggedObject, Json.choice?_cons, slots?_of_names,
      bindings_back, Binding.mapNodes]
  | .list _ initializers, levels, bindingLevels + 1, enough, _ => by
    simp only [encodeBinding, taggedObject, depth, membersDepth] at enough
    have initializers_back := ElementInit.listDecode_encode initializers levels (by omega)
    simp [encodeBinding, Binding.decode, taggedObject, Json.choice?_cons, slots?_of_names,
      initializers_back, Binding.mapNodes]

/-- So are several. -/
theorem Binding.listDecode_encode : (bindings : List Binding) → (levels bindingLevels : Nat) →
    itemsDepth (encodeBindings bindings) < levels →
    itemsDepth (encodeBindings bindings) < bindingLevels →
    list? (Binding.decode (Expr.decode id levels .inner) bindingLevels .inner)
        (.array (encodeBindings bindings)) =
      some (Binding.listMapNodes Expr.withoutNull bindings)
  | [], _, _, _, _ => rfl
  | binding :: bindings, levels, bindingLevels, enough, nested => by
    simp only [encodeBindings, itemsDepth] at enough nested
    exact Json.list?_cons
      (binding.decode_encode levels bindingLevels (by omega) (by omega))
      (Binding.listDecode_encode bindings levels bindingLevels (by omega) (by omega))

/-- The written arguments for one item are read back. -/
theorem ElementInit.decode_encode : (init : ElementInit) → (levels : Nat) →
    (encodeInit init).depth < levels →
    ElementInit.decode (Expr.decode id levels .inner) (encodeInit init) =
      some (init.mapNodes Expr.withoutNull)
  | .mk arguments, levels, enough => by
    simp only [encodeInit, depth, membersDepth] at enough
    have arguments_back := Expr.listDecode_encode arguments levels (by omega)
    simp [encodeInit, ElementInit.decode, slots?_of_names, arguments_back, ElementInit.mapNodes]

/-- So are those for several items. -/
theorem ElementInit.listDecode_encode : (inits : List ElementInit) → (levels : Nat) →
    itemsDepth (encodeInits inits) < levels →
    list? (ElementInit.decode (Expr.decode id levels .inner)) (.array (encodeInits inits)) =
      some (ElementInit.listMapNodes Expr.withoutNull inits)
  | [], _, _ => rfl
  | init :: inits, levels, enough => by
    simp only [encodeInits, itemsDepth] at enough
    exact Json.list?_cons (init.decode_encode levels (by omega))
      (ElementInit.listDecode_encode inits levels (by omega))

/-- A written case is read back. -/
theorem SwitchCase.decode_encode : (one : SwitchCase) → (levels : Nat) →
    (encodeCase one).depth < levels →
    SwitchCase.decode (Expr.decode id levels .inner) (encodeCase one) =
      some (one.mapNodes Expr.withoutNull)
  | .mk testValues body, levels, enough => by
    simp only [encodeCase, depth, membersDepth] at enough
    have values_back := Expr.listDecode_encode testValues levels (by omega)
    have body_back := body.decode_encode levels .inner (by omega)
    simp [encodeCase, SwitchCase.decode, slots?_of_names, values_back, body_back,
      SwitchCase.mapNodes]

/-- So are several. -/
theorem SwitchCase.listDecode_encode : (cases : List SwitchCase) → (levels : Nat) →
    itemsDepth (encodeCases cases) < levels →
    list? (SwitchCase.decode (Expr.decode id levels .inner)) (.array (encodeCases cases)) =
      some (SwitchCase.listMapNodes Expr.withoutNull cases)
  | [], _, _ => rfl
  | first :: cases, levels, enough => by
    simp only [encodeCases, itemsDepth] at enough
    exact Json.list?_cons (first.decode_encode levels (by omega))
      (SwitchCase.listDecode_encode cases levels (by omega))

/-- A written handler is read back. -/
theorem CatchBlock.decode_encode : (handler : CatchBlock) → (levels : Nat) →
    (encodeHandler handler).depth < levels →
    CatchBlock.decode (Expr.decode id levels .inner) .inner (encodeHandler handler) =
      some (handler.mapNodes Expr.withoutNull)
  | .mk _ exception filter body, levels, enough => by
    simp only [encodeHandler, depth, membersDepth] at enough
    have filter_back := Expr.optionDecode_encode filter levels (by omega)
    have body_back := body.decode_encode levels .inner (by omega)
    simp [encodeHandler, CatchBlock.decode, slots?_of_names, Parameter.nullable_encode,
      filter_back, body_back, CatchBlock.mapNodes]

/-- So are several. -/
theorem CatchBlock.listDecode_encode : (handlers : List CatchBlock) → (levels : Nat) →
    itemsDepth (encodeHandlers handlers) < levels →
    list? (CatchBlock.decode (Expr.decode id levels .inner) .inner)
        (.array (encodeHandlers handlers)) =
      some (CatchBlock.listMapNodes Expr.withoutNull handlers)
  | [], _, _ => rfl
  | handler :: handlers, levels, enough => by
    simp only [encodeHandlers, itemsDepth] at enough
    exact Json.list?_cons (handler.decode_encode levels (by omega))
      (CatchBlock.listDecode_encode handlers levels (by omega))

end

/-! ## The whole expression -/

/-- Whether an expression is a static member whose value is there, and null. -/
def Expr.isNullMember : Expr → Bool
  | .memberAccess _ { value := some .null, .. } _ => true
  | _ => false

theorem Expr.withoutNull_of_isNullMember_eq_false {expr : Expr}
    (valued : expr.isNullMember = false) : expr.withoutNull = expr := by
  cases expr with
  | memberAccess owner member type =>
      obtain ⟨name, declaringType, value⟩ := member
      rcases value with _ | value
      · rfl
      · cases value with
        | null => cases valued
        | _ => rfl
  | _ => rfl

/-- A written expression is read back with null members made members without a value, and so
unchanged if it has none. -/
theorem written_expr_read_back (expr : Expr) :
    Expr.ofJson? expr.encode = some (expr.mapNodes Expr.withoutNull) ∧
      ((∀ node ∈ expr.nodes, node.isNullMember = false) →
        Expr.ofJson? expr.encode = some expr) := by
  have back : Expr.ofJson? expr.encode = some (expr.mapNodes Expr.withoutNull) :=
    expr.decode_encode _ .outer (Nat.lt_succ_self _)
  refine ⟨back, fun valued => ?_⟩
  have fixes : Fixes Expr.withoutNull expr.nodes := fun node member =>
    Expr.withoutNull_of_isNullMember_eq_false (valued node member)
  rw [back, expr.mapNodes_of_fixes fixes]

/-- A comparison of two values of a static member. -/
def Expr.comparedDefaults (left right : Option Json) : Expr :=
  let shown (value : Option Json) : Expr :=
    .memberAccess none ⟨"Default", some "Options", value⟩ TypeRef.object
  .binary .equal (shown left) (.late (.getMember "Size") [shown right] TypeRef.object)
    TypeRef.boolean

theorem comparedDefaults_read_back :
    Expr.ofJson? (Expr.comparedDefaults (some .null) (some (.integer 7))).encode =
        some (Expr.comparedDefaults none (some (.integer 7))) ∧
      (∀ node ∈ (Expr.comparedDefaults (some (.array [.null])) none).nodes,
        node.isNullMember = false) ∧
      Expr.ofJson? (Expr.comparedDefaults (some (.array [.null])) none).encode =
        some (Expr.comparedDefaults (some (.array [.null])) none) := by
  have valued : ∀ node ∈ (Expr.comparedDefaults (some (.array [.null])) none).nodes,
      node.isNullMember = false := by
    simp [Expr.comparedDefaults, Expr.nodes, Expr.optionNodes, Expr.listNodes, Expr.isNullMember]
  exact ⟨(written_expr_read_back _).1, valued, (written_expr_read_back _).2 valued⟩

end AqlPipeline
