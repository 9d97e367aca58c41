import AqlPipeline.Error
import AqlPipeline.Expr.Basic

/-!
# What writing an expression does

A script is the list of things that happen when an expression is written: text is added, lines are
broken, values are bound, and parts of the expression are visited at their place in the tree. It
does not depend on what has been written before.
-/

namespace AqlPipeline

/-- One thing that happens while writing. None of them can fail. -/
inductive Step where
  /-- Adds text. -/
  | write (text : String)
  /-- Adds a delimiter between two items that go on lines of their own. -/
  | delimit (delimiter : String)
  /-- Starts a new line. -/
  | breakLine
  /-- Drops the spaces that a line break would leave at the end of the line. -/
  | trim
  /-- Goes one level of indentation deeper. -/
  | indent
  /-- Goes back by one level of indentation. -/
  | dedent
  /-- Binds a value that has no name, and refers to it. -/
  | bindLiteral (value : Json)
  /-- Binds a value that has a name, and refers to it. -/
  | bindNamed (name : String) (value : Json)
  /-- Learns of a parameter: the first one is the iteration variable, its type the collection. -/
  | declare (parameter : Parameter)
  /-- Learns of the type of a new object: the first one is what the query yields. -/
  | project (typeName : String)
  /-- Returns the iteration variable. -/
  | yieldIterator
  /-- Leaves out rows of the result. -/
  | skip (count : Int)

/-- What writing an expression does. -/
inductive Script where
  /-- Nothing more. -/
  | done
  /-- The writing cannot go on. -/
  | fail (error : Error)
  /-- A step, then the rest. -/
  | step (first : Step) (rest : Script)
  /-- A part of the expression at a segment of the path, then the rest. -/
  | visit (segment : String) (body rest : Script)

namespace Script

instance : Inhabited Script := ⟨done⟩

/-- One script after the other. -/
def append : Script → Script → Script
  | .done, next => next
  | .fail error, _ => .fail error
  | .step first rest, next => .step first (rest.append next)
  | .visit segment body rest, next => .visit segment body (rest.append next)

instance : Append Script := ⟨append⟩

/-! ## Single steps -/

/-- Adds text. -/
def write (text : String) : Script := .step (.write text) .done

/-- Visits a part of the expression. -/
def enter (segment : String) (body : Script) : Script := .visit segment body .done

/-- Starts a new line. -/
def breakLine : Script := .step .breakLine .done

/-- Goes one level of indentation deeper. -/
def indent : Script := .step .indent .done

/-- Goes back by one level of indentation. -/
def dedent : Script := .step .dedent .done

/-- Starts a new line one level deeper. -/
def openLines : Script := indent ++ breakLine

/-- Starts a new line one level less deep. -/
def closeLines : Script := dedent ++ breakLine

/-- Adds a delimiter between two items that go on lines of their own. -/
def delimit (delimiter : String) : Script := .step (.delimit delimiter) .done

/-- Binds a value that has no name, and refers to it. -/
def bindLiteral (value : Json) : Script := .step (.bindLiteral value) .done

/-- Binds a value that has a name, and refers to it. -/
def bindNamed (name : String) (value : Json) : Script := .step (.bindNamed name value) .done

/-! ## Sequences -/

/-- One script after the other, with a delimiter between two of them. -/
def join (delimiter : Script) : List Script → Script
  | [] => .done
  | [script] => script
  | script :: scripts => script ++ delimiter ++ join delimiter scripts

/-- The segment of an item of a sequence. -/
def numbered (base : String) (index : Nat) : String :=
  base ++ "[" ++ toString index ++ "]"

/-- Visits the items of a sequence, numbered from `index` on. -/
def visits (base : String) (index : Nat) : List Script → List Script
  | [] => []
  | body :: bodies => enter (numbered base index) body :: visits base (index + 1) bodies

/-- Visits the items of a sequence in one line. -/
def inLine (base delimiter : String) (bodies : List Script) : Script :=
  join (write delimiter) (visits base 0 bodies)

/-- Visits the items of a sequence on lines of their own. -/
def onLines (base delimiter : String) (bodies : List Script) : Script :=
  join (delimit delimiter) (visits base 0 bodies)

end Script

end AqlPipeline
