import AqlPipeline.Expr.Basic
import AqlPipeline.Json.Printer

/-!
# Values known before the query runs

Constants, captured variables, their members and conversions have a value that does not depend on
the query. Joined strings and conditionals have one when all they are made of does.
-/

namespace AqlPipeline

/-- What a value contributes to a joined string: nothing for null, a string as it is, and the JSON
text of anything else. -/
def Json.joinedText : Json → String
  | .null => ""
  | .string text => text
  | value => value.compact

namespace Expr

/-- Whether a binary operator joins strings when its result is one. -/
def joinsStrings (operator : BinaryOperator) : Bool :=
  operator == .add || operator == .addChecked

mutual

/-- The value of an expression that does not depend on the query. -/
def staticValue? : Expr → Option Json
  | .constant value _ => some value
  | .captured _ value _ => some value
  | .memberAccess none member _ => member.value
  | .memberAccess (some owner) member _ =>
    match owner.staticValue? with
    | some (.object fields) => Json.lookup? member.name fields
    | _ => none
  | .unary operator (some operand) _ =>
    if operator.isConversion then operand.staticValue? else none
  | .binary operator left right type =>
    if joinsStrings operator && type.isString then
      match left.staticValue?, right.staticValue? with
      | some left, some right => some (.string (left.joinedText ++ right.joinedText))
      | _, _ => none
    else none
  | .call _ method arguments _ =>
    if method.isStringConcat then
      match arguments with
      | [.newArray .init items _] => (joinedTexts? items).map .string
      | arguments => (joinedTexts? arguments).map .string
    else none
  | .conditional test ifTrue ifFalse _ =>
    match test.staticValue? with
    | some (.bool true) => ifTrue.staticValue?
    | some (.bool false) => ifFalse.staticValue?
    | _ => none
  | _ => none

/-- The text that the values of some expressions make when joined. -/
def joinedTexts? : List Expr → Option String
  | [] => some ""
  | expr :: exprs =>
    match expr.staticValue?, joinedTexts? exprs with
    | some value, some text => some (value.joinedText ++ text)
    | _, _ => none

end

/-- The value of a member that does not depend on the query: that of a static member, or the field
of that name of its owner's value. -/
def memberValue? (owner : Option Expr) (member : Member) : Option Json :=
  match owner with
  | none => member.value
  | some owner =>
    match owner.staticValue? with
    | some (.object fields) => Json.lookup? member.name fields
    | _ => none

end Expr

end AqlPipeline
