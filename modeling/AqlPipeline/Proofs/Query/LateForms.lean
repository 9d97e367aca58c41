import AqlPipeline.Expr.Build
import AqlPipeline.Proofs.Writer.Moved
import AqlPipeline.Query

/-!
# Operations bound late and their static forms

Most operations that are bound while the query runs have a form that is bound before.  Both are
written in the same way: they visit the same parts, only under other segments.  Members are the
exception, since only the static form knows which of them are the key of a document.
-/

namespace AqlPipeline

/-- Visits an expression at a segment, where it stands as the placement says. -/
def Writer.visit (writer : Writer) (dialect : Dialect) (segment : String) (placement : Placement)
    (expr : Expr) : Outcome :=
  run (.enter segment (expr.script dialect placement)) writer

/-! ## Operators at other segments -/

namespace Render

open Script

theorem rightOperand_moved (operator : BinaryOperator) (segment segment' : String) (right : Part) :
    Moved (rightOperand operator segment right) (rightOperand operator segment' right) := by
  have visited : Moved (right.visit segment) (right.visit segment') := .enter _ _ _
  unfold rightOperand
  split
  · split
    · exact .refl _
    · split
      · exact visited
      · split
        · exact visited
        · exact .refl _
  · split
    · split
      · exact .refl _
      · exact visited
    · exact visited

theorem power_moved (leftSegment leftSegment' rightSegment rightSegment' : String)
    (left right : Part) :
    Moved (power leftSegment left rightSegment right)
      (power leftSegment' left rightSegment' right) :=
  ((((Moved.refl _).append (.enter _ _ _)).append (.refl _)).append (.enter _ _ _)).append (.refl _)

theorem binary_moved (operator : BinaryOperator)
    (leftSegment leftSegment' rightSegment rightSegment' : String) (left right : Part) :
    Moved (binary operator leftSegment left rightSegment right)
      (binary operator leftSegment' left rightSegment' right) := by
  have lefts : Moved (left.visit leftSegment) (left.visit leftSegment') := .enter _ _ _
  have powers := power_moved leftSegment leftSegment' rightSegment rightSegment' left right
  unfold binary
  split
  · exact (lefts.append (.refl _)).append (rightOperand_moved operator _ _ right)
  · split
    · exact ((lefts.append (.refl _)).append (.enter _ _ _)).append (.refl _)
    · exact ((Moved.enter _ _ _).append (.refl _)).append powers
    · exact powers

theorem unary_moved (dialect : Dialect) (operator : UnaryOperator) (segment segment' : String)
    (operand : Part) (type : TypeRef) :
    Moved (unary dialect operator segment operand type)
      (unary dialect operator segment' operand type) := by
  have visited : Moved (operand.visit segment) (operand.visit segment') := .enter _ _ _
  cases operator with
  | arrayLength | typeAs | postIncrementAssign | postDecrementAssign | increment | decrement =>
      exact visited.append (.refl _)
  | negate | negateChecked | unaryPlus | not | onesComplement | preIncrementAssign
  | preDecrementAssign | isFalse | throw => exact (Moved.refl _).append visited
  | isTrue => exact visited
  | convert | convertChecked | unbox =>
      simp only [unary]
      split
      · exact visited
      · exact (Moved.refl _).append visited
  | quote => exact .step .trim (((Moved.refl openLines).append visited).append (.refl _))

theorem element_moved (segment segment' : String) (object : Part) (index index' : Nat)
    (arguments : List Part) :
    Moved (element segment object (keys index arguments))
      (element segment' object (keys index' arguments)) :=
  (((Moved.enter _ _ _).append (.refl _)).append (.join_visits _ _ _ _ _ _)).append (.refl _)

theorem invocation_eq {function : Part}
    (named : ∀ parameters body type, function.expr ≠ .lambda parameters body type)
    (arguments : List Part) :
    invocation function arguments =
      function.visit "Expression" ++ write "(" ++ Part.inLine "Arguments" arguments ++
        write ")" := by
  unfold invocation
  split
  · rename_i lambda
    exact absurd lambda (named _ _ _)
  · rfl

end Render

/-! ## Operations -/

/-- An operation that is bound while the query runs, and its static form: the same operator with the
same operands, the same conversion, the same keys or the same call. -/
inductive Expr.StaticForm : Expr → Expr → Prop where
  | binary (operator : BinaryOperator) (left right : Expr) (lateType type : TypeRef) :
      StaticForm (.late (.binaryOp operator) [left, right] lateType)
        (.binary operator left right type)
  | unary (operator : UnaryOperator) (operand : Expr) (type : TypeRef) :
      StaticForm (.late (.unaryOp operator) [operand] type) (.unary operator (some operand) type)
  | convert (target : TypeRef) (operand : Expr) (lateType : TypeRef) :
      StaticForm (.late (.convert target) [operand] lateType)
        (.unary .convert (some operand) target)
  | index (receiver key : Expr) (keys : List Expr) (lateType type : TypeRef) :
      StaticForm (.late .getIndex (receiver :: key :: keys) lateType)
        (.index receiver (key :: keys) type)
  /-- A function that is written out is called in parentheses by the static form only. -/
  | invocation (function : Expr) (arguments : List Expr) (lateType type : TypeRef)
      (named : ∀ parameters body functionType, function ≠ .lambda parameters body functionType) :
      StaticForm (.late .invoke (function :: arguments) lateType)
        (.invocation function arguments type)

/-- An operation and its static form do the same at other segments. -/
theorem Expr.StaticForm.moved {late static : Expr} (form : StaticForm late static)
    (dialect : Dialect) (placement placement' : Placement) :
    Script.Moved (late.script dialect placement) (static.script dialect placement') := by
  cases form with
  | binary operator left right => exact Render.binary_moved operator _ _ _ _ _ _
  | unary operator operand type => exact Render.unary_moved dialect operator _ _ _ type
  | convert target operand => exact Render.unary_moved dialect .convert _ _ _ target
  | index receiver key keys =>
      exact Render.element_moved _ _ ⟨receiver, receiver.script dialect⟩ 1 0
        (Expr.parts dialect (key :: keys))
  | invocation function arguments _ _ named =>
      rw [Expr.script, Expr.script, Render.invocation_eq named]
      exact (((Script.Moved.enter _ _ _).append (.refl _)).append
        (.join_visits _ _ _ _ _ _)).append (.refl _)

/-- An operation that is bound while the query runs is written like its static form, wherever the
two are visited: both stop at the same error, or both end with the same text, indentation, bind
variables, rows to leave out, knowledge about the query and messages of gaps. -/
theorem late_operation_like_static {late static : Expr} (form : late.StaticForm static)
    (dialect : Dialect) (writer : Writer) (segment segment' : String)
    (placement placement' : Placement) :
    (writer.visit dialect segment placement late).Concur
      (writer.visit dialect segment' placement' static) := by
  have visits : Script.Moved (.enter segment (late.script dialect placement))
      (.enter segment' (static.script dialect placement')) :=
    .visit segment segment' (form.moved dialect placement placement') .done
  exact visits.run (.refl writer)

/-- The element of a cart at a key that is itself not supported. -/
def Expr.cartElement : Expr × Expr :=
  let cart : Expr := .parameter ⟨"cart", .named "Cart"⟩
  let key : Expr := .late (.deleteMember "Age") [cart] .object
  (.late .getIndex [cart, key] .object, .index cart [key] .object)

theorem late_operation_like_static_cartElement :
    Expr.cartElement.1.StaticForm Expr.cartElement.2 ∧
      ((Writer.start {}).visit .aql "" {} Expr.cartElement.1).Concur
        ((Writer.start {}).visit .aql "Body" {} Expr.cartElement.2) ∧
      ∃ after, (Writer.start {}).visit .aql "Body" {} Expr.cartElement.2 = .finished after ∧
        after.output.text = "cart[\n// NOT IMPLEMENTED: deleting the member 'Age'\n]" ∧
        after.gaps = [⟨"Body.Arguments[0]", "deleting the member 'Age'"⟩] := by
  have form : Expr.cartElement.1.StaticForm Expr.cartElement.2 := .index _ _ _ _ _
  refine ⟨form, late_operation_like_static form .aql (.start {}) "" "Body" {} {}, _, rfl, ?_, ?_⟩
  · decide +kernel
  · decide +kernel

/-! ## Members -/

theorem Render.attributeName_eq {name : String} (capital : name ≠ "Key") (small : name ≠ "key") :
    attributeName name = name := by
  simp [attributeName, capital, small]

theorem Render.attributeName_key {name : String} (key : name = "Key" ∨ name = "key") :
    attributeName name = "_key" := by
  rcases key with rfl | rfl <;> rfl

/-- A member of what does not hold captured variables is written behind its owner. -/
theorem Expr.script_memberAccess {owner : Expr} (plain : Render.holdsCaptures owner = false)
    (dialect : Dialect) (member : Member) (type : TypeRef) (placement : Placement) :
    (Expr.memberAccess (some owner) member type).script dialect placement =
      .enter "Expression" (owner.script dialect {}) ++
        .write ("." ++ Render.attributeName member.name) := by
  rw [Expr.script, Expr.optionalPart, Render.memberAccess, plain]
  rfl

/-- An expression that is another one and some text behind it is written as if that one were visited
in its place and the text written then. -/
theorem Writer.visit_suffixed {dialect : Dialect} {expr inner : Expr} {place text : String}
    {placement : Placement}
    (script_eq : expr.script dialect placement =
      .enter place (inner.script dialect {}) ++ .write text)
    (writer : Writer) (segment segment' : String) :
    ((writer.visit dialect segment' {} inner).andThen fun behind =>
      .finished (behind.append text)).Concur (writer.visit dialect segment placement expr) := by
  have entered : writer.Concur (writer.enter segment) := ⟨rfl, rfl, rfl, rfl, rfl, rfl⟩
  have inside := (Script.Moved.enter segment' place (inner.script dialect {})).run entered
  have ends := run_ends (expr.script dialect placement) (writer.enter segment)
  rw [script_eq, run_append] at ends
  rw [visit, visit, run_enter segment, script_eq, run_append]
  generalize run (.enter segment' _) writer = visited at inside ⊢
  cases ran : run (.enter place (inner.script dialect {})) (writer.enter segment) with
  | finished behind =>
      rw [ran] at inside ends
      cases inside with
      | finished agree =>
          obtain ⟨-, added, -⟩ := ends
          have appended := agree.apply (.write text)
          have kept : writer.output.size ≤ (behind.append text).output.size := by
            have grown : (writer.enter segment).output.size ≤ behind.output.size :=
              run_enter_size_le ran
            refine Nat.le_trans grown ?_
            change _ ≤ (behind.output.text ++ text).utf8ByteSize
            rw [String.utf8ByteSize_append]
            exact Nat.le_add_right _ _
          have left := leave_eq_closed added.segments kept
          change Outcome.Concur _ (leave (writer.mark segment) (behind.append text))
          change leave (writer.mark segment) (behind.append text) = _ at left
          rw [left]
          exact .finished ⟨appended.output, appended.binds, appended.facts, appended.skips,
            appended.defaultIterator, appended.messages⟩
  | stopped behind error =>
      rw [ran] at inside
      -- a visit stops only at errors that the visits around it do not replace
      cases inside with
      | stopped agree =>
          cases error with
          | notSupported thing =>
              rw [run_enter] at ran
              exact (close_ne_notSupported _ _ _ _ ran).elim
          | _ => exact .stopped agree _
  | crashed behind =>
      rw [ran] at inside
      cases inside with
      | crashed agree => exact .crashed agree

/-- A member that is read while the query runs is written like a member of that name, unless that
is the key of a document: then the static form writes the attribute of the key behind the owner, and
the other one the name. -/
theorem late_member_read {receiver : Expr} (plain : Render.holdsCaptures receiver = false)
    (dialect : Dialect) (member : Member) (lateType type : TypeRef) (writer : Writer)
    (segment : String) (placement : Placement) :
    let late := writer.visit dialect segment placement
      (.late (.getMember member.name) [receiver] lateType)
    let static := writer.visit dialect segment placement (.memberAccess (some receiver) member type)
    let received (text : String) := (writer.visit dialect segment {} receiver).andThen fun behind =>
      .finished (behind.append text)
    (member.name ≠ "Key" → member.name ≠ "key" → late.Concur static) ∧
      (member.name = "Key" ∨ member.name = "key" →
        (received ("." ++ member.name)).Concur late ∧ (received "._key").Concur static) := by
  intro late static received
  have late_eq : (Expr.late (.getMember member.name) [receiver] lateType).script dialect placement =
      .enter (Render.argumentSegment 0) (receiver.script dialect {}) ++
        .write ("." ++ member.name) := rfl
  have static_eq := Expr.script_memberAccess plain dialect member type placement
  constructor
  · intro capital small
    rw [Render.attributeName_eq capital small] at static_eq
    have moved : Script.Moved
        ((Expr.late (.getMember member.name) [receiver] lateType).script dialect placement)
        ((Expr.memberAccess (some receiver) member type).script dialect placement) := by
      rw [late_eq, static_eq]
      exact (Script.Moved.enter _ _ _).append (.refl _)
    exact (Script.Moved.visit segment segment moved .done).run (.refl writer)
  · intro key
    rw [Render.attributeName_key key] at static_eq
    exact ⟨writer.visit_suffixed late_eq segment segment,
      writer.visit_suffixed static_eq segment segment⟩

theorem Outcome.Concur.exists_finished {writer : Writer} {outcome : Outcome}
    (agree : Concur (.finished writer) outcome) :
    ∃ after, outcome = .finished after ∧ after.output.text = writer.output.text := by
  cases agree with
  | finished writers => exact ⟨_, rfl, congrArg Output.text writers.output⟩

/-- A member of a user that is read while the query runs, and its static form. -/
def Expr.userMember (name : String) : Expr × Expr :=
  let user : Expr := .parameter ⟨"u", .named "User"⟩
  (.late (.getMember name) [user] .string, .memberOf user name .string)

theorem late_member_read_userMember :
    Render.holdsCaptures (.parameter ⟨"u", .named "User"⟩) = false ∧
      ((Writer.start {}).visit .aql "Body" {} (Expr.userMember "_key").1).Concur
        ((Writer.start {}).visit .aql "Body" {} (Expr.userMember "_key").2) ∧
      ∃ after after',
        (Writer.start {}).visit .aql "Body" {} (Expr.userMember "key").1 = .finished after ∧
        (Writer.start {}).visit .aql "Body" {} (Expr.userMember "key").2 = .finished after' ∧
        after.output.text = "u.key" ∧ after'.output.text = "u._key" := by
  have plain : Render.holdsCaptures (.parameter ⟨"u", .named "User"⟩) = false := rfl
  obtain ⟨ordinary, -⟩ := late_member_read plain .aql ⟨"_key", none, none⟩ .string .string
    (.start {}) "Body" {}
  obtain ⟨-, key⟩ := late_member_read plain .aql ⟨"key", none, none⟩ .string .string
    (.start {}) "Body" {}
  obtain ⟨late, static⟩ := key (.inr rfl)
  obtain ⟨after, ended, text_eq⟩ := late.exists_finished
  obtain ⟨after', ended', text_eq'⟩ := static.exists_finished
  refine ⟨plain, ordinary (by decide) (by decide), after, after', ended, ended', ?_, ?_⟩
  · rw [text_eq]
    rfl
  · rw [text_eq']
    rfl

/-- The key of a document that is read late is written by the name of the member, and not as the
attribute of the key. -/
theorem late_key_missed :
    ∃ after after',
      (Writer.start {}).visit .aql "" {} (Expr.userMember "Key").1 = .finished after ∧
      (Writer.start {}).visit .aql "" {} (Expr.userMember "Key").2 = .finished after' ∧
      after.output.text = "u.Key" ∧ after'.output.text = "u._key" ∧
      ¬ ((Writer.start {}).visit .aql "" {} (Expr.userMember "Key").1).Concur
        ((Writer.start {}).visit .aql "" {} (Expr.userMember "Key").2) := by
  refine ⟨_, _, rfl, rfl, ?_, ?_, ?_⟩
  · rfl
  · rfl
  · rintro ⟨agree⟩
    exact absurd (congrArg Output.text agree.output) (by decide)

end AqlPipeline
