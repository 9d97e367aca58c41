import AqlPipeline.Render.Construct
import AqlPipeline.Stage

/-!
# Method calls

The methods of a pipeline become clauses. Other calls are written as such, but for the joining and
formatting of strings and for indexed properties.
-/

namespace AqlPipeline.Render

open Script

/-! ## Strings -/

/-- The segment of the items of an array that is an argument. -/
def itemsSegment (index : Nat) : String :=
  numbered "Arguments" index ++ ".Expressions"

/-- The joining of strings, or of the items of one array; `itemsAt` gives what writing each item of
an argument does. Other calls of that name are not written so. -/
def concatenation? (arguments : List Part) (itemsAt : Nat → List Script) : Option Script :=
  match arguments with
  | [] => none
  | first :: _ =>
    if first.isItems then some (inLine (itemsSegment 0) " + " (itemsAt 0))
    else if arguments.all fun argument => argument.expr.type.isString then
      some (inLine "Arguments" " + " (arguments.map Part.script))
    else none

/-- The format string of a call, if it is a constant. -/
def constantFormat? : List Part → Option String
  | [] => none
  | first :: _ =>
    match first.expr with
    | .constant (.string format) _ => some format
    | _ => none

/-- The visits of the arguments that fill in a format string: the items of a single array, or all
arguments behind the format string. -/
def formatItems (arguments : List Part) (itemsAt : Nat → List Script) : List Script :=
  match arguments with
  | [] => []
  | [_, argument] =>
    if argument.isItems then visits (itemsSegment 1) 0 (itemsAt 1) else keys 1 [argument]
  | _ :: arguments => keys 1 arguments

/-- Literal text inside of an interpolated string: braces are doubled. -/
def doubledBraces (text : String) : String :=
  String.ofList <| text.toList.flatMap fun char =>
    if char == '\x7b' || char == '\x7d' then [char, char] else [char]

/-- An item of an interpolated string. -/
def formatItem (placeholder : FormatString.Placeholder) (items : List Script) : Script :=
  match items[placeholder.index]? with
  | none => .fail (.missingFormatArgument placeholder.index items.length)
  | some item =>
    write "\x7b" ++ item ++
      write ((placeholder.alignment.map (", " ++ ·)).getD "" ++
        (placeholder.format.map (":" ++ ·)).getD "" ++ "\x7d")

/-- The segments of an interpolated string. -/
def formatSegments (items : List Script) : List FormatString.Segment → Script
  | [] => .done
  | ⟨literal, none⟩ :: _ => write (doubledBraces literal)
  | ⟨literal, some placeholder⟩ :: segments =>
    write (doubledBraces literal) ++ formatItem placeholder items ++ formatSegments items segments

/-- The filling in of a constant format string, as an interpolated string. -/
def interpolated (format : String) (items : List Script) : Script :=
  match FormatString.parse format with
  | .error fault => .fail (.invalidFormatString format fault)
  | .ok segments =>
    write "$\"" ++ formatSegments items segments ++ write "\""

/-! ## Clauses -/

/-- The number of rows of a stage, which has to be known before the query runs. -/
def rowCount (stage : Stage) (arguments : List Part) (use : Int → Script) : Script :=
  match arguments with
  | first :: _ =>
    match first.expr.staticValue?.bind Json.int64? with
    | some count => use count
    | none => .fail (.notStaticInteger stage.methodName)
  | [] => .fail (.notStaticInteger stage.methodName)

/-- The pattern for texts that begin with a value. -/
def likePattern (value : Json) : String :=
  let text :=
    match value with
    | .string text => text
    | value => value.compact
  String.ofList (text.toList.filter (· != '\x22')) ++ "%"

/-- The test for a beginning that is known before the query runs. -/
def likeClause (arguments : List Part) : Script :=
  match arguments with
  | [] => .fail (.argumentCount Stage.startsWith.methodName (.atLeast 1) 0)
  | first :: _ =>
    match first.expr.staticValue? with
    | none => .fail (.notSupported "a StartsWith prefix that depends on the query")
    | some value => write "\nLIKE " ++ bindLiteral (.string (likePattern value))

/-- The clause of a stage, behind its receiver; `visited` are the visits of its arguments. -/
def clause (stage : Stage) (arguments : List Part) (visited : Script) : Script :=
  match stage with
  | .filter => write "\nFILTER " ++ visited
  | .orderBy => write "\nSORT " ++ visited ++ write " ASC"
  | .orderByDescending => write "\nSORT " ++ visited ++ write " DESC"
  | .thenBy => write ", " ++ visited ++ write " ASC"
  | .thenByDescending => write ", " ++ visited ++ write " DESC"
  | .select => write "\nRETURN " ++ visited
  | .groupBy => write "\nCOLLECT " ++ visited
  | .singleOrDefault =>
    (if arguments.isEmpty then .done else write "\nFILTER " ++ visited) ++
      .step .yieldIterator .done
  | .contains => .done
  | .startsWith => likeClause arguments
  | .take => rowCount stage arguments fun count => write ("\nLIMIT " ++ toString count)
  | .skip => rowCount stage arguments fun count => .step (.skip count) .done

/-! ## Calls -/

/-- What follows the receiver of a call: a clause, or the name of the method with its arguments. -/
def applied (method : Method) (arguments : List Part) (visited : Script) : Script :=
  match Stage.ofName? method.name with
  | some stage => clause stage arguments visited
  | none => write ("." ++ method.name ++ "(") ++ visited ++ write ")"

/-- A call on a receiver. Membership is tested the other way around: the receiver comes last. -/
def received (method : Method) (receiver : Script) (arguments : List Part) (visited : Script) :
    Script :=
  (match Stage.ofName? method.name with
    | some .contains => visited ++ write "\nIN " ++ receiver
    | _ => receiver) ++
    applied method arguments visited

/-- A call that is written as one. Extension methods are called on their first argument, methods
without a receiver on their type. -/
def plainCall (dialect : Dialect) (target : Option Part) (method : Method)
    (arguments : List Part) : Script :=
  let visitsFrom (index : Nat) (arguments : List Part) := join (write ", ") (keys index arguments)
  match target, method.kind with
  | some target, _ =>
    received method (target.visit "Object") arguments (visitsFrom 0 arguments)
  | none, .extension =>
    match arguments with
    | [] => .fail (.argumentCount method.name (.atLeast 1) 0)
    | first :: arguments =>
      received method (first.visit (numbered "Arguments" 0)) arguments (visitsFrom 1 arguments)
  | none, _ =>
    write (dialect.typeName method.declaringType) ++
      applied method arguments (visitsFrom 0 arguments)

/-- Whether a call reads an indexed property, or an element of an array. -/
def isElementRead (target : Option Part) (method : Method) : Bool :=
  method.isIndexer ||
    ((target.any fun target => target.expr.type.isArray) && method.name == "Get")

/-- A call that does not join strings. -/
def otherCall (dialect : Dialect) (target : Option Part) (method : Method)
    (arguments : List Part) (itemsAt : Nat → List Script) : Script :=
  if isElementRead target method then
    match target with
    | none => .fail (.notSupported ("the static indexer '" ++ method.name ++ "'"))
    | some target => element "Object" target (keys 0 arguments)
  else if method.isStringFormat then
    match constantFormat? arguments with
    | some format => interpolated format (formatItems arguments itemsAt)
    | none => plainCall dialect target method arguments
  else plainCall dialect target method arguments

/-- A method call; `itemsAt` gives what writing each item of an argument does. -/
def call (dialect : Dialect) (target : Option Part) (method : Method) (arguments : List Part)
    (itemsAt : Nat → List Script) : Script :=
  if method.isStringConcat then
    match concatenation? arguments itemsAt with
    | some script => script
    | none => otherCall dialect target method arguments itemsAt
  else otherCall dialect target method arguments itemsAt

end AqlPipeline.Render
