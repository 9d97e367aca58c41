import AqlPipeline.Proofs.FormatString.Brackets
import AqlPipeline.Proofs.Json.Brackets
import AqlPipeline.Proofs.Script.Abides
import AqlPipeline.Render.Call
import AqlPipeline.Render.Late

/-!
# Operators, objects and calls abide by rules

Each form of expression is neutral if its parts are and its own names are accepted: what it opens in
front of a part, it closes behind it.
-/

namespace AqlPipeline

open Script

/-- Whether what a dialect spells and looks up abides by rules. -/
structure Dialect.AbidesBy (rules : Rules) (dialect : Dialect) : Prop where
  /-- Values made of accepted texts are accepted. -/
  literal : ∀ value type, (∀ text ∈ value.texts, rules.Accepts text) →
    rules.Accepts (dialect.literal value type)
  /-- So are types with accepted names. -/
  typeName : ∀ type, rules.Accepts type.root.name → rules.Accepts (dialect.typeName type)
  /-- So is what a member with an accepted name refers to. -/
  reference : ∀ owner member type reference, rules.Accepts member.name →
    dialect.resolve owner member type = .ok reference → rules.Accepts reference.name
  /-- A member with an accepted name may be looked up in vain. -/
  error : ∀ owner member type error, rules.Accepts member.name →
    dialect.resolve owner member type = .error error → rules.allows error

/-- The names that a late-bound operation is written with. -/
def LateOperation.texts : LateOperation → List String
  | .convert type => [type.root.name]
  | .deleteMember name | .getMember name | .invokeMember name | .setMember name => [name]
  | .binaryOp _ | .unaryOp _ | .createInstance | .deleteIndex | .getIndex | .invoke
  | .setIndex => []

theorem TypeRef.root_root (type : TypeRef) : type.root.root = type.root := by
  induction type with
  | plain name kind names => rfl
  | array name element rank names ih => exact ih

namespace Render

variable {rules : Rules} {dialect : Dialect}

/-- The arguments numbered from `index` on. -/
theorem keys_neutral (index : Nat) {arguments : List Part}
    (neutral : ∀ part ∈ arguments, part.IsNeutral rules) :
    ∀ key ∈ keys index arguments, Neutral rules key :=
  Neutral.visits "Arguments" index (Part.IsNeutral.scripts neutral)

theorem argumentsFrom_neutral (index : Nat) {arguments : List Part}
    (neutral : ∀ part ∈ arguments, part.IsNeutral rules) :
    Neutral rules (argumentsFrom index arguments) :=
  .join (.write (by decide)) (keys_neutral index neutral)

/-! ## Operators -/

theorem rightOperand_neutral (operator : BinaryOperator) (segment : String) {right : Part}
    (rights : right.IsNeutral rules) : Neutral rules (rightOperand operator segment right) := by
  have visited := rights.visit segment
  unfold rightOperand
  split
  · split
    · exact .bindLiteral _
    · split
      · exact visited
      · split
        · exact visited
        · exact fun _ => .notSupported (Rules.accepts_of_balanced (by decide))
  · split
    · split
      · exact .bindLiteral _
      · exact visited
    · exact visited

theorem power_neutral (leftSegment rightSegment : String) {left right : Part}
    (lefts : left.IsNeutral rules) (rights : right.IsNeutral rules) :
    Neutral rules (power leftSegment left rightSegment right) := by
  intro due
  have opened : Abides rules due (write "POW(") (')' :: due) := .opens (by decide)
  have divided : Neutral rules (write ", ") := .write (by decide)
  exact (((opened.append (lefts.visit _ _)).append (divided _)).append (rights.visit _ _)).append
    (.closes (by decide))

theorem symbol_balanced {operator : BinaryOperator} {symbol : String}
    (known : operator.symbol? = some symbol) : Text.Balanced (" " ++ symbol ++ " ") := by
  cases operator <;> cases known <;> decide

theorem binary_neutral (operator : BinaryOperator) (leftSegment rightSegment : String)
    {left right : Part} (lefts : left.IsNeutral rules) (rights : right.IsNeutral rules) :
    Neutral rules (binary operator leftSegment left rightSegment right) := by
  have powers := power_neutral leftSegment rightSegment lefts rights
  unfold binary
  split
  · rename_i symbol known
    exact ((lefts.visit _).append (.write (symbol_balanced known))).append
      (rightOperand_neutral operator _ rights)
  · split
    · exact (lefts.visit _).append_enclosed (rights.visit _) ']' (by decide) (by decide)
    · exact ((lefts.visit _).append (.write (by decide))).append powers
    · exact powers

theorem unary_neutral (abides : dialect.AbidesBy rules) (operator : UnaryOperator)
    (segment : String) {operand : Part} {type : TypeRef} (operands : operand.IsNeutral rules)
    (named : rules.Accepts type.root.name) :
    Neutral rules (unary dialect operator segment operand type) := by
  have visited := operands.visit segment
  have typed := abides.typeName type named
  have behind : ∀ {text}, Text.Balanced text →
      Neutral rules (write text ++ operand.visit segment) := fun balanced =>
    (Neutral.write balanced).append visited
  have inFront : ∀ {text}, Text.Balanced text →
      Neutral rules (operand.visit segment ++ write text) := fun balanced =>
    visited.append (.write balanced)
  cases operator with
  | convert | convertChecked | unbox =>
      simp only [unary]
      split
      · exact visited
      · exact (Neutral.writes (typed.enclosed ')' (by decide) (by decide))).append visited
  | typeAs =>
      exact visited.append (.writes ((Rules.accepts_of_balanced (by decide)).append typed))
  | negate | negateChecked | unaryPlus | onesComplement | preIncrementAssign | preDecrementAssign
  | isFalse | throw => exact behind (by decide)
  | not =>
      simp only [unary]
      split <;> exact behind (by decide)
  | arrayLength | postIncrementAssign | postDecrementAssign | increment | decrement =>
      exact inFront (by decide)
  | isTrue => exact visited
  | quote => exact fun due => .step rfl (((Neutral.openLines.append visited).append .dedent) due)

theorem bare_neutral (operator : UnaryOperator) : Neutral rules (bare operator) := by
  unfold bare
  split
  · exact .write (by decide)
  · exact fun _ => .ordinary rfl

/-! ## Members and objects -/

theorem reference_neutral (abides : dialect.AbidesBy rules) (owner : Option Expr)
    {member : Member} (type : TypeRef) (named : rules.Accepts member.name) :
    Neutral rules (reference dialect owner member type) := by
  unfold reference
  split
  · rename_i reference resolved
    exact .bindNamed (abides.reference _ _ _ _ named resolved) _
  · rename_i error failed
    exact fun _ => .fail (abides.error _ _ _ _ named failed)

theorem attributeName_accepted {name : String} (named : rules.Accepts name) :
    rules.Accepts (attributeName name) := by
  unfold attributeName
  split
  · exact Rules.accepts_of_balanced (by decide)
  · exact named

theorem memberAccess_neutral (abides : dialect.AbidesBy rules) {owner : Option Part}
    {member : Member} (type : TypeRef) (owners : ∀ part ∈ owner, part.IsNeutral rules)
    (named : rules.Accepts member.name) :
    Neutral rules (memberAccess dialect owner member type) := by
  cases owner with
  | none => exact reference_neutral abides none type named
  | some owner =>
      simp only [memberAccess]
      split
      · exact reference_neutral abides _ type named
      · have dotted : rules.Accepts ("." ++ attributeName member.name) :=
          (Rules.accepts_of_balanced (by decide)).append (attributeName_accepted named)
        exact ((owners owner rfl).visit _).append (.writes dotted)

theorem constructed_neutral {arguments : List Part}
    (neutral : ∀ part ∈ arguments, part.IsNeutral rules) : Neutral rules (constructed arguments) :=
  (Part.IsNeutral.inLine _ neutral).enclosed '\x7d' (by decide) (by decide)

/-- A member and the sign behind it. -/
theorem assignment_accepted {member : String} (named : rules.Accepts member) :
    rules.Accepts (member ++ " = ") :=
  named.append (Rules.accepts_of_balanced (by decide))

theorem namedArguments_neutral (index : Nat) {members : List String} {arguments : List Part}
    (named : ∀ member ∈ members, rules.Accepts member)
    (neutral : ∀ part ∈ arguments, part.IsNeutral rules) :
    ∀ script ∈ namedArguments index members arguments, Neutral rules script := by
  induction arguments generalizing index members with
  | nil => cases members <;> nofun
  | cons argument arguments ih =>
      obtain ⟨own, others⟩ := List.forall_mem_cons.mp neutral
      cases members with
      | nil => nofun
      | cons member members =>
          obtain ⟨ownName, otherNames⟩ := List.forall_mem_cons.mp named
          have visited := own.visit (numbered "Arguments" index)
          refine List.forall_mem_cons.mpr ⟨?_, ih (index + 1) otherNames others⟩
          split
          · exact visited
          · exact (Neutral.writes (assignment_accepted ownName)).append visited

theorem project_neutral (typeName : String) {script : Script} (neutral : Neutral rules script) :
    Neutral rules (.step (.project typeName) script) :=
  fun due => .step rfl (neutral due)

theorem newObject_neutral {arguments : List Part} {members : List String} (type : TypeRef)
    (named : ∀ member ∈ members, rules.Accepts member)
    (neutral : ∀ part ∈ arguments, part.IsNeutral rules) :
    Neutral rules (newObject arguments members type) := by
  apply project_neutral
  split
  · exact constructed_neutral neutral
  · split
    · exact fun _ => .ordinary rfl
    · have delimited : Neutral rules (delimit ", ") := .delimit (by decide)
      exact (delimited.join (namedArguments_neutral 0 named neutral)).enclosedLines '\x7d'
        (by decide) (by decide)

theorem braced_neutral (base : String) {items : List Script}
    (neutral : ∀ script ∈ items, Neutral rules script) : Neutral rules (braced base items) := by
  refine Neutral.enclosed ?_ '\x7d' (by decide) (by decide)
  split
  · exact .nothing
  · exact (Neutral.openLines.append (.onLines base (by decide) neutral)).append .closeLines

theorem memberInit_neutral (new : NewObject) {constructor : Script} {bindings : List Script}
    (constructors : Neutral rules constructor)
    (neutral : ∀ script ∈ bindings, Neutral rules script) :
    Neutral rules (memberInit new constructor bindings) := by
  have entered := constructors.enter "NewExpression"
  apply project_neutral
  split
  · exact braced_neutral _ neutral
  · exact entered
  · exact (entered.append (.write (by decide))).append (braced_neutral _ neutral)

theorem assigned_neutral {member : String} {value : Script} (named : rules.Accepts member)
    (values : Neutral rules value) : Neutral rules (assigned member value) :=
  (Neutral.writes (assignment_accepted named)).append values

theorem elementInit_neutral {arguments : List Part}
    (neutral : ∀ part ∈ arguments, part.IsNeutral rules) :
    Neutral rules (elementInit arguments) := by
  unfold elementInit
  split
  · exact fun _ => .ordinary rfl
  · exact (neutral _ List.mem_cons_self).visit _
  · exact braced_neutral _ (Part.IsNeutral.scripts neutral)

theorem listInit_neutral {initializers : List Script}
    (neutral : ∀ script ∈ initializers, Neutral rules script) :
    Neutral rules (listInit initializers) :=
  (Neutral.inLine _ (by decide) neutral).enclosed ']' (by decide) (by decide)

theorem newArray_neutral (abides : dialect.AbidesBy rules) (kind : ArrayKind) {items : List Part}
    {type : TypeRef} (named : rules.Accepts type.root.name)
    (neutral : ∀ part ∈ items, part.IsNeutral rules) :
    Neutral rules (newArray dialect kind items type) := by
  unfold newArray
  split
  · exact (Part.IsNeutral.inLine _ neutral).enclosed ']' (by decide) (by decide)
  · split
    · exact fun _ => .ordinary rfl
    · split
      · exact fun _ => .ordinary rfl
      · rename_i inner _ _
        intro due
        have typed : rules.Accepts ("new " ++ dialect.typeName type.root) :=
          (Rules.accepts_of_balanced (by decide)).append
            (abides.typeName _ (type.root_root.symm ▸ named))
        have opened : rules.Leads due ("new " ++ dialect.typeName type.root ++ "[") (']' :: due) :=
          (typed.leads due).append (Rules.leads_opening (by decide) due)
        have ranked : rules.Accepts (String.join (inner.map TypeRef.brackets)) :=
          Rules.accepts_of_balanced (TypeRef.balanced_join_brackets inner)
        have closed : rules.Leads (']' :: due) ("]" ++ String.join (inner.map TypeRef.brackets))
            due := .append (Rules.leads_closing (by decide) due) (ranked.leads due)
        exact ((Abides.write opened).append (Part.IsNeutral.inLine _ neutral _)).append
          (.write closed)

theorem element_neutral (segment : String) {object : Part} {keys : List Script}
    (objects : object.IsNeutral rules) (neutral : ∀ key ∈ keys, Neutral rules key) :
    Neutral rules (element segment object keys) := by
  have divided : Neutral rules (write ", ") := .write (by decide)
  exact (objects.visit segment).append_enclosed (divided.join neutral) ']' (by decide) (by decide)

theorem typeTest_neutral (abides : dialect.AbidesBy rules) (kind : TypeTestKind) {subject : Part}
    {operand : TypeRef} (subjects : subject.IsNeutral rules)
    (named : rules.Accepts operand.root.name) :
    Neutral rules (typeTest dialect kind subject operand) := by
  have typed := abides.typeName operand named
  refine (subjects.visit _).append ?_
  cases kind with
  | isA => exact .writes ((Rules.accepts_of_balanced (by decide)).append typed)
  | equal => exact .writes (typed.enclosed ')' (by decide) (by decide))

theorem invocation_neutral {function : Part} {arguments : List Part}
    (functions : function.IsNeutral rules) (neutral : ∀ part ∈ arguments, part.IsNeutral rules) :
    Neutral rules (invocation function arguments) := by
  have visited := functions.visit "Expression"
  refine Neutral.append_enclosed ?_ (Part.IsNeutral.inLine _ neutral) ')' (by decide) (by decide)
  split
  · exact visited.enclosed ')' (by decide) (by decide)
  · exact visited

/-! ## Strings -/

theorem concatenation?_neutral {arguments : List Part} {itemsAt : Nat → List Script}
    (neutral : ∀ part ∈ arguments, part.IsNeutral rules)
    (items : ∀ index, ∀ script ∈ itemsAt index, Neutral rules script) :
    ∀ script ∈ concatenation? arguments itemsAt, Neutral rules script := by
  unfold concatenation?
  split
  · nofun
  · split
    · rintro script ⟨⟩
      exact .inLine _ (by decide) (items 0)
    · split
      · rintro script ⟨⟩
        exact .inLine _ (by decide) (Part.IsNeutral.scripts neutral)
      · nofun

theorem formatItems_neutral {arguments : List Part} {itemsAt : Nat → List Script}
    (neutral : ∀ part ∈ arguments, part.IsNeutral rules)
    (items : ∀ index, ∀ script ∈ itemsAt index, Neutral rules script) :
    ∀ script ∈ formatItems arguments itemsAt, Neutral rules script := by
  unfold formatItems
  split
  · nofun
  · have others := (List.forall_mem_cons.mp neutral).2
    split
    · exact Neutral.visits _ 0 (items 1)
    · exact keys_neutral 1 others
  · exact keys_neutral 1 (List.forall_mem_cons.mp neutral).2

/-- A format item is filled in between the brackets that are its own. -/
theorem formatItem_abides {items : List Script} (neutral : ∀ script ∈ items, Neutral rules script)
    (placeholder : FormatString.Placeholder) {due middle next : List Char}
    (opens : rules.Leads due "\x7b" middle)
    (closes : rules.Leads middle (placeholder.details ++ "\x7d") next) :
    Abides rules due (formatItem placeholder items) next := by
  unfold formatItem
  split
  · exact .ordinary rfl
  · rename_i item found
    exact ((Abides.write opens).append (neutral item (List.mem_of_getElem? found) middle)).append
      (.write closes)

/-- The text of what has been read of a format string. -/
def rawText : FormatString.Reading → List Char
  | .literal found => (doubledBraces (String.ofList found.reverse)).toList
  | .item literal _ found =>
    (doubledBraces (String.ofList literal.reverse)).toList ++ '\x7b' :: found.reverse

/-- The segments of a format string have the brackets of its text.  If brackets do not have to
match, nothing is said about those that are due at the end. -/
theorem formatSegments_abides {items : List Script}
    (neutral : ∀ script ∈ items, Neutral rules script) {reading : FormatString.Reading}
    {position : Nat} {text : List Char} {segments : List FormatString.Segment}
    (scanned : FormatString.scan reading position text = .ok segments) {due next : List Char}
    (leads : rules.Leads due (String.ofList (rawText reading ++ text)) next) :
    ∃ last, (rules.brackets → last = next) ∧
      Abides rules due (formatSegments items segments) last := by
  fun_induction FormatString.scan reading position text generalizing segments due next with
  | case1 =>
      cases scanned
      exact ⟨due, fun brackets => Option.some.inj (leads brackets), .done⟩
  | case2 position found =>
      cases scanned
      refine ⟨next, fun _ => rfl, .write ?_⟩
      simpa [rawText] using leads
  | case3 found position text ih | case4 found position text ih =>
      exact ih scanned (by simpa [rawText, doubledBraces] using leads)
  | case5 => cases scanned
  | case6 found position text _ ih =>
      exact ih scanned (by simpa [rawText] using leads)
  | case7 found position char text _ _ notClosing notOpening ih =>
      have single : ¬(char = '\x7b' ∨ char = '\x7d') := by
        rintro (opening | closing)
        · exact notOpening opening
        · exact notClosing closing
      exact ih scanned (by simpa [rawText, doubledBraces, single] using leads)
  | case8 => cases scanned
  | case9 => cases scanned
  | case10 literal start found position text placeholder read ih =>
      have parts_eq : String.ofList (rawText (.item literal start found) ++ '\x7d' :: text) =
          doubledBraces (String.ofList literal.reverse) ++
            ("\x7b" ++ (String.ofList found.reverse ++ ("\x7d" ++ String.ofList text))) := by
        apply String.toList_inj.mp
        simp [rawText]
      rw [parts_eq] at leads
      obtain ⟨_, front, leads⟩ := Rules.leads_append_iff.mp leads
      obtain ⟨_, opens, leads⟩ := Rules.leads_append_iff.mp leads
      obtain ⟨_, inside, leads⟩ := Rules.leads_append_iff.mp leads
      obtain ⟨_, closes, leads⟩ := Rules.leads_append_iff.mp leads
      have detailed := inside.congr <|
        (FormatString.filter_of_placeholder? read).trans (by rw [String.toList_ofList])
      have filled := formatItem_abides neutral placeholder opens (detailed.append closes)
      cases others : FormatString.scan (.literal []) (position + 1) text with
      | error fault =>
          rw [others] at scanned
          cases scanned
      | ok segments =>
          rw [others] at scanned
          cases scanned
          obtain ⟨last, last_eq, rests⟩ := ih others (by simpa [rawText, doubledBraces] using leads)
          exact ⟨last, last_eq, ((Abides.write front).append filled).append rests⟩
  | case11 literal start found position char text _ ih =>
      exact ih scanned (by simpa [rawText] using leads)

theorem interpolated_neutral {format : String} {items : List Script}
    (accepts : rules.Accepts format) (neutral : ∀ script ∈ items, Neutral rules script) :
    Neutral rules (interpolated format items) := by
  intro due
  unfold interpolated
  split
  · exact .ordinary rfl
  · rename_i segments parsed
    obtain ⟨read, scanned, segments_eq⟩ : ∃ read,
        FormatString.scan (.literal []) 0 format.toList = .ok read ∧
          (if read.isEmpty then [⟨"", none⟩] else read) = segments := by
      unfold FormatString.parse at parsed
      cases scanned : FormatString.scan (.literal []) 0 format.toList with
      | error fault =>
          rw [scanned] at parsed
          cases parsed
      | ok read =>
          rw [scanned] at parsed
          exact ⟨read, rfl, Except.ok.inj parsed⟩
    have leads : rules.Leads due (String.ofList (rawText (.literal []) ++ format.toList)) due := by
      simpa [rawText, doubledBraces] using accepts.leads due
    obtain ⟨last, last_eq, abides⟩ := formatSegments_abides neutral scanned leads
    have opened : Neutral rules (write "$\"") := .write (by decide)
    have closed : Abides rules last (write "\"") due := by
      refine .write fun brackets => ?_
      rw [last_eq brackets]
      exact (Rules.accepts_of_balanced (by decide)).leads due brackets
    cases read with
    | nil =>
        cases segments_eq
        cases abides
        have empty : Neutral rules (write (doubledBraces "")) := .write (by decide)
        exact ((opened due).append (empty due)).append closed
    | cons segment read =>
        cases segments_eq
        exact ((opened due).append abides).append closed

/-! ## Clauses -/

theorem rowCount_neutral (stage : Stage) (arguments : List Part) {use : Int → Script}
    (uses : ∀ count, Neutral rules (use count)) : Neutral rules (rowCount stage arguments use) := by
  unfold rowCount
  split
  · split
    · exact uses _
    · exact fun _ => .ordinary rfl
  · exact fun _ => .ordinary rfl

theorem likeClause_neutral (arguments : List Part) : Neutral rules (likeClause arguments) := by
  unfold likeClause
  split
  · exact fun _ => .ordinary rfl
  · split
    · exact fun _ => .notSupported (Rules.accepts_of_balanced (by decide))
    · exact (Neutral.write (by decide)).append (.bindLiteral _)

theorem clause_neutral (stage : Stage) (arguments : List Part) {visited : Script}
    (neutral : Neutral rules visited) : Neutral rules (clause stage arguments visited) := by
  have worded : ∀ {text}, Text.Balanced text → Neutral rules (write text ++ visited) :=
    fun balanced => (Neutral.write balanced).append neutral
  have yielded : Neutral rules (.step .yieldIterator .done) := .single fun _ => rfl
  cases stage with
  | filter | select | groupBy => exact worded (by decide)
  | orderBy | orderByDescending | thenBy | thenByDescending =>
      exact (worded (by decide)).append (.write (by decide))
  | singleOrDefault =>
      simp only [clause]
      split
      · exact yielded
      · exact (worded (by decide)).append yielded
  | contains => exact .nothing
  | startsWith => exact likeClause_neutral arguments
  | take =>
      refine rowCount_neutral _ arguments fun count => .write ?_
      have worded : Text.Balanced "\nLIMIT " := by decide
      exact worded.append (bracketless_toString count).nests
  | skip => exact rowCount_neutral _ arguments fun count => .single fun _ => rfl

/-! ## Calls -/

/-- A method name and the bracket behind it. -/
theorem callOpening_leads {name : String} (named : rules.Accepts name) (due : List Char) :
    rules.Leads due ("." ++ name ++ "(") (')' :: due) := by
  have dotted : rules.Accepts ("." ++ name) :=
    (Rules.accepts_of_balanced (by decide)).append named
  exact (dotted.leads due).append (Rules.leads_opening (by decide) due)

theorem applied_neutral {method : Method} (arguments : List Part) {visited : Script}
    (named : rules.Accepts method.name) (neutral : Neutral rules visited) :
    Neutral rules (applied method arguments visited) := by
  unfold applied
  split
  · exact clause_neutral _ arguments neutral
  · intro due
    exact ((Abides.write (callOpening_leads named due)).append (neutral _)).append
      (.closes (by decide))

theorem received_neutral {method : Method} {receiver : Script} (arguments : List Part)
    {visited : Script} (named : rules.Accepts method.name) (receivers : Neutral rules receiver)
    (neutral : Neutral rules visited) :
    Neutral rules (received method receiver arguments visited) := by
  have behind := applied_neutral arguments named neutral
  unfold received
  split
  · exact ((neutral.append (.write (by decide))).append receivers).append behind
  · exact receivers.append behind

theorem plainCall_neutral (abides : dialect.AbidesBy rules) {target : Option Part}
    {method : Method} {arguments : List Part} (named : rules.Accepts method.name)
    (typed : rules.Accepts method.declaringType.root.name)
    (targets : ∀ part ∈ target, part.IsNeutral rules)
    (neutral : ∀ part ∈ arguments, part.IsNeutral rules) :
    Neutral rules (plainCall dialect target method arguments) := by
  unfold plainCall
  split
  · rename_i target
    exact received_neutral arguments named ((targets target rfl).visit _)
      (argumentsFrom_neutral 0 neutral)
  · split
    · exact fun _ => .ordinary rfl
    · obtain ⟨first, others⟩ := List.forall_mem_cons.mp neutral
      exact received_neutral _ named (first.visit _) (argumentsFrom_neutral 1 others)
  · exact (Neutral.writes (abides.typeName _ typed)).append
      (applied_neutral arguments named (argumentsFrom_neutral 0 neutral))

theorem otherCall_neutral (abides : dialect.AbidesBy rules) {target : Option Part}
    {method : Method} {arguments : List Part} {itemsAt : Nat → List Script}
    (named : rules.Accepts method.name)
    (typed : rules.Accepts method.declaringType.root.name)
    (formatted : ∀ format ∈ constantFormat? arguments, rules.Accepts format)
    (targets : ∀ part ∈ target, part.IsNeutral rules)
    (neutral : ∀ part ∈ arguments, part.IsNeutral rules)
    (items : ∀ index, ∀ script ∈ itemsAt index, Neutral rules script) :
    Neutral rules (otherCall dialect target method arguments itemsAt) := by
  have plain := plainCall_neutral abides named typed targets neutral
  unfold otherCall
  split
  · split
    · have quoted : rules.Accepts ("the static indexer '" ++ method.name ++ "'") :=
        ((Rules.accepts_of_balanced (by decide)).append named).append
          (Rules.accepts_of_balanced (by decide))
      exact fun _ => .notSupported quoted
    · exact element_neutral _ (targets _ rfl) (keys_neutral 0 neutral)
  · split
    · split
      · rename_i format found
        exact interpolated_neutral (formatted format found) (formatItems_neutral neutral items)
      · exact plain
    · exact plain

theorem call_neutral (abides : dialect.AbidesBy rules) {target : Option Part} {method : Method}
    {arguments : List Part} {itemsAt : Nat → List Script} (named : rules.Accepts method.name)
    (typed : rules.Accepts method.declaringType.root.name)
    (formatted : ∀ format ∈ constantFormat? arguments, rules.Accepts format)
    (targets : ∀ part ∈ target, part.IsNeutral rules)
    (neutral : ∀ part ∈ arguments, part.IsNeutral rules)
    (items : ∀ index, ∀ script ∈ itemsAt index, Neutral rules script) :
    Neutral rules (call dialect target method arguments itemsAt) := by
  have other := otherCall_neutral abides named typed formatted targets neutral items
  unfold call
  split
  · split
    · rename_i script joined
      exact concatenation?_neutral neutral items script joined
    · exact other
  · exact other

/-! ## Operations bound while the query runs -/

theorem late_neutral (abides : dialect.AbidesBy rules) {operation : LateOperation}
    {arguments : List Part} {type : TypeRef}
    (named : ∀ text ∈ operation.texts, rules.Accepts text)
    (typed : rules.Accepts type.root.name)
    (neutral : ∀ part ∈ arguments, part.IsNeutral rules) :
    Neutral rules (late dialect operation arguments type) := by
  have miscounted : ∀ expected, Neutral rules (miscounted operation expected arguments) :=
    fun _ _ => .ordinary rfl
  have dotted : ∀ {name}, rules.Accepts name → rules.Accepts ("." ++ name) := fun named =>
    (Rules.accepts_of_balanced (by decide)).append named
  cases operation with
  | createInstance => exact constructed_neutral neutral
  | deleteIndex => exact fun _ => .notSupported (Rules.accepts_of_balanced (by decide))
  | deleteMember name =>
      have quoted : rules.Accepts ("deleting the member '" ++ name ++ "'") :=
        ((Rules.accepts_of_balanced (by decide)).append (named name List.mem_cons_self)).append
          (Rules.accepts_of_balanced (by decide))
      exact fun _ => .notSupported quoted
  | binaryOp operator =>
      match arguments, neutral with
      | [_, _], neutral =>
          exact binary_neutral operator _ _ (neutral _ (by simp)) (neutral _ (by simp))
      | [], _ | [_], _ | _ :: _ :: _ :: _, _ => exact miscounted _
  | convert target =>
      match arguments, neutral with
      | [_], neutral =>
          exact unary_neutral abides .convert _ (neutral _ (by simp)) (named _ List.mem_cons_self)
      | [], _ | _ :: _ :: _, _ => exact miscounted _
  | unaryOp operator =>
      match arguments, neutral with
      | [_], neutral => exact unary_neutral abides operator _ (neutral _ (by simp)) typed
      | [], _ | _ :: _ :: _, _ => exact miscounted _
  | getMember name =>
      match arguments, neutral with
      | [_], neutral =>
          exact ((neutral _ (by simp)).visit _).append
            (.writes (dotted (named name List.mem_cons_self)))
      | [], _ | _ :: _ :: _, _ => exact miscounted _
  | getIndex =>
      match arguments, neutral with
      | _ :: _ :: _, neutral =>
          obtain ⟨receiver, others⟩ := List.forall_mem_cons.mp neutral
          exact element_neutral _ receiver (keys_neutral 1 others)
      | [], _ | [_], _ => exact miscounted _
  | invoke =>
      match arguments, neutral with
      | _ :: _, neutral =>
          obtain ⟨receiver, others⟩ := List.forall_mem_cons.mp neutral
          exact (receiver.visit _).append_enclosed (argumentsFrom_neutral 1 others) ')'
            (by decide) (by decide)
      | [], _ => exact miscounted _
  | invokeMember name =>
      match arguments, neutral with
      | _ :: _, neutral =>
          obtain ⟨receiver, others⟩ := List.forall_mem_cons.mp neutral
          intro due
          have opened := callOpening_leads (named name List.mem_cons_self) due
          exact (((receiver.visit _ _).append (.write opened)).append
            (argumentsFrom_neutral 1 others _)).append (.closes (by decide))
      | [], _ => exact miscounted _
  | setIndex =>
      match arguments, neutral with
      | _ :: _ :: _ :: _, neutral =>
          obtain ⟨receiver, others⟩ := List.forall_mem_cons.mp neutral
          obtain ⟨value, others⟩ := List.forall_mem_cons.mp others
          have indexed := element_neutral (argumentSegment 0) receiver (keys_neutral 2 others)
          exact (indexed.append (.write (by decide))).append (value.visit _)
      | [], _ | [_], _ | [_, _], _ => exact miscounted _
  | setMember name =>
      match arguments, neutral with
      | [_, _], neutral =>
          have assigned := (dotted (named name List.mem_cons_self)).append
            (Rules.accepts_of_balanced (by decide : Text.Balanced " = "))
          exact (((neutral _ (by simp)).visit _).append (.writes assigned)).append
            ((neutral _ (by simp)).visit _)
      | [], _ | [_], _ | _ :: _ :: _ :: _, _ => exact miscounted _

end Render

end AqlPipeline
