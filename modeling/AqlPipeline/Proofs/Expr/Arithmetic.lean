import AqlPipeline.Render.Construct

/-!
# Calculations with integers

Operands are written one after the other with operators between them, and without parentheses.  The
text of a calculation can be read in one way only, as operands and operators in order, but it does
not tell how they were grouped.  It tells the value of those calculations that need no parentheses.
-/

namespace AqlPipeline

/-- A type of numbers. -/
def NumberType := { type : TypeRef // type.hasKind .number }

theorem NumberType.hasKind_eq_false (type : NumberType) {kind : TypeKind} (other : kind ≠ .number) :
    type.1.hasKind kind = false := by
  obtain ⟨type, number⟩ := type
  cases type with
  | plain name own names =>
      have own_eq : own = .number := by simpa [TypeRef.hasKind] using number
      simpa [TypeRef.hasKind, own_eq] using other.symm
  | array => rfl

/-- An operator of calculations with integers. -/
inductive ArithmeticOperator where
  | add
  | subtract
  | multiply
  deriving DecidableEq, Repr

namespace ArithmeticOperator

/-- The operator of expressions. -/
def operator : ArithmeticOperator → BinaryOperator
  | .add => .add
  | .subtract => .subtract
  | .multiply => .multiply

/-- How it is written. -/
def symbol : ArithmeticOperator → Char
  | .add => '+'
  | .subtract => '-'
  | .multiply => '*'

/-- What it does. -/
def apply : ArithmeticOperator → Int → Int → Int
  | .add, left, right => left + right
  | .subtract, left, right => left - right
  | .multiply, left, right => left * right

end ArithmeticOperator

/-- A calculation with members of a parameter. -/
inductive Arithmetic where
  /-- A member of the parameter. -/
  | field (member : Member) (type : NumberType)
  /-- An integer. -/
  | constant (value : Int) (type : NumberType)
  /-- An operator between two operands. -/
  | binary (operator : ArithmeticOperator) (left right : Arithmetic) (type : NumberType)

namespace Arithmetic

/-- The calculation as an expression. -/
def expr (x : Parameter) : Arithmetic → Expr
  | .field member type => .memberAccess (some (.parameter x)) member type.1
  | .constant value type => .constant (.integer value) type.1
  | .binary operator left right type =>
    .binary operator.operator (left.expr x) (right.expr x) type.1

/-- The result, given the members by name. -/
def value (members : String → Int) : Arithmetic → Int
  | .field member _ => members member.name
  | .constant value _ => value
  | .binary operator left right _ => operator.apply (left.value members) (right.value members)

/-- The names of the members. -/
def memberNames : Arithmetic → List String
  | .field member _ => [member.name]
  | .constant .. => []
  | .binary _ left right _ => left.memberNames ++ right.memberNames

/-- Whether the calculation is a sum or a difference. -/
def isSum : Arithmetic → Bool
  | .binary .add .. | .binary .subtract .. => true
  | _ => false

/-- Whether the calculation needs no parentheses: sums and differences are neither multiplied nor
subtracted. -/
def isFlat : Arithmetic → Bool
  | .binary operator left right _ =>
    left.isFlat && right.isFlat &&
      match operator with
      | .add => true
      | .subtract => !right.isSum
      | .multiply => !left.isSum && !right.isSum
  | _ => true

/-! ## Reading from left to right -/

/-- An operand as it is written. -/
inductive Operand where
  /-- An attribute of the document. -/
  | field (name : String)
  /-- An integer. -/
  | constant (value : Int)

/-- The value of an operand. -/
def Operand.value (members : String → Int) : Operand → Int
  | .field name => members name
  | .constant value => value

/-- The operands in order, each with the operator in front of it. -/
def terms (operator : ArithmeticOperator) : Arithmetic → List (ArithmeticOperator × Operand)
  | .field member _ => [(operator, .field (Render.attributeName member.name))]
  | .constant value _ => [(operator, .constant value)]
  | .binary inner left right _ => left.terms operator ++ right.terms inner

/-- How far some terms have been added up: a sum, and a product that is to be added to it. -/
structure Tally where
  /-- What has been added up. -/
  sum : Int
  /-- What is still being multiplied. -/
  product : Int

namespace Tally

/-- The sum of all terms so far. -/
def total (tally : Tally) : Int :=
  tally.sum + tally.product

/-- Goes on with an operator and a number. -/
def take (tally : Tally) : ArithmeticOperator → Int → Tally
  | .add, number => ⟨tally.total, number⟩
  | .subtract, number => ⟨tally.total, -number⟩
  | .multiply, number => ⟨tally.sum, tally.product * number⟩

/-- Goes on with some terms. -/
def read (members : String → Int) (tally : Tally) (terms : List (ArithmeticOperator × Operand)) :
    Tally :=
  terms.foldl (fun tally term => tally.take term.1 (term.2.value members)) tally

theorem read_append (members : String → Int) (tally : Tally)
    (first second : List (ArithmeticOperator × Operand)) :
    tally.read members (first ++ second) = (tally.read members first).read members second :=
  List.foldl_append

/-- A product is one number. -/
theorem take_multiply (tally : Tally) (operator : ArithmeticOperator) (left right : Int) :
    (tally.take operator left).take .multiply right = tally.take operator (left * right) := by
  cases operator with
  | add => rfl
  | subtract => exact congrArg (Tally.mk tally.total) (Int.neg_mul left right)
  | multiply => exact congrArg (Tally.mk tally.sum) (Int.mul_assoc tally.product left right)

end Tally

section Reading

variable {members : String → Int}
  (keys : ∀ name, members (Render.attributeName name) = members name)
include keys

/-- A product that needs no parentheses is read like its value. -/
theorem read_product {tree : Arithmetic} (flat : tree.isFlat) (product : tree.isSum = false)
    (operator : ArithmeticOperator) (tally : Tally) :
    tally.read members (tree.terms operator) = tally.take operator (tree.value members) := by
  induction tree generalizing operator tally with
  | field member type =>
      change tally.take operator (members (Render.attributeName member.name)) = _
      rw [keys]
      rfl
  | constant value type => rfl
  | binary inner left right type leftIh rightIh =>
      cases inner with
      | add => cases product
      | subtract => cases product
      | multiply =>
          simp only [isFlat, Bool.and_eq_true, Bool.not_eq_true'] at flat
          obtain ⟨⟨leftFlat, rightFlat⟩, leftProduct, rightProduct⟩ := flat
          rw [terms, Tally.read_append, leftIh leftFlat leftProduct, rightIh rightFlat rightProduct,
            Tally.take_multiply]
          rfl

/-- A calculation that needs no parentheses adds its value to the total. -/
theorem read_total {tree : Arithmetic} (flat : tree.isFlat) (tally : Tally) :
    (tally.read members (tree.terms .add)).total = tally.total + tree.value members := by
  induction tree generalizing tally with
  | field member type => rw [read_product keys flat rfl]; rfl
  | constant value type => rfl
  | binary inner left right type leftIh rightIh =>
      have flats := flat
      simp only [isFlat, Bool.and_eq_true] at flats
      obtain ⟨⟨leftFlat, rightFlat⟩, grouped⟩ := flats
      cases inner with
      | add =>
          rw [terms, Tally.read_append, rightIh rightFlat, leftIh leftFlat, Int.add_assoc]
          rfl
      | subtract =>
          rw [terms, Tally.read_append, read_product keys rightFlat (by simpa using grouped)]
          change (tally.read members (left.terms .add)).total + -right.value members = _
          rw [leftIh leftFlat, Int.add_assoc]
          rfl
      | multiply => rw [read_product keys flat rfl]; rfl

end Reading

/-! ## The text of some terms -/

/-- The digits of an integer, and its sign. -/
def decimal (value : Int) : List Char :=
  (toString value).toList

/-- How an operand is written. -/
def Operand.text (x : String) : Operand → List Char
  | .field name => x.toList ++ '.' :: name.toList
  | .constant value => decimal value

/-- How some terms are written. -/
def written (x : String) : List (ArithmeticOperator × Operand) → List Char
  | [] => []
  | (operator, operand) :: terms =>
    ' ' :: operator.symbol :: ' ' :: (operand.text x ++ written x terms)

theorem written_append (x : String) (first second : List (ArithmeticOperator × Operand)) :
    written x (first ++ second) = written x first ++ written x second := by
  induction first with
  | nil => rfl
  | cons term first ih =>
      obtain ⟨operator, operand⟩ := term
      simp [written, ih]

theorem symbol_injective : Function.Injective ArithmeticOperator.symbol := by
  intro operator other same
  cases operator <;> cases other <;> first | rfl | cases same

/-! ## Decimals and words -/

/-- An integer has digits, and a sign if it is negative. -/
theorem decimal_cases (value : Int) :
    (∃ number : Nat, value = number ∧ decimal value = Nat.toDigits 10 number) ∨
      ∃ number : Nat, value = -number ∧ decimal value = '-' :: Nat.toDigits 10 number := by
  cases value with
  | ofNat number => exact .inl ⟨number, rfl, Nat.toList_repr⟩
  | negSucc number =>
      refine .inr ⟨number.succ, rfl, ?_⟩
      change ("-" ++ number.succ.repr).toList = _
      rw [String.toList_append, Nat.toList_repr]
      rfl

theorem toDigits_injective : Function.Injective (Nat.toDigits 10) := by
  intro number other same
  calc
    number = Nat.ofDigitChars 10 (Nat.toDigits 10 number) 0 := Nat.ofDigitChars_ten_toDigits.symm
    _ = Nat.ofDigitChars 10 (Nat.toDigits 10 other) 0 := by rw [same]
    _ = other := Nat.ofDigitChars_ten_toDigits

theorem not_mem_toDigits {char : Char} (noDigit : char.isDigit = false) (number : Nat) :
    char ∉ Nat.toDigits 10 number := by
  intro member
  have digit := Nat.isDigit_of_mem_toDigits (by decide) (by decide) member
  rw [noDigit] at digit
  cases digit

theorem decimal_injective : Function.Injective decimal := by
  have unsigned : ∀ number other : Nat, Nat.toDigits 10 number ≠ '-' :: Nat.toDigits 10 other := by
    intro number other same
    have sign : '-' ∈ Nat.toDigits 10 number := by simp [same]
    exact not_mem_toDigits rfl number sign
  intro value other same
  rcases decimal_cases value with ⟨number, rfl, digits⟩ | ⟨number, rfl, digits⟩ <;>
    rcases decimal_cases other with ⟨another, rfl, otherDigits⟩ | ⟨another, rfl, otherDigits⟩ <;>
    rw [digits, otherDigits] at same
  · rw [toDigits_injective same]
  · exact absurd same (unsigned _ _)
  · exact absurd same.symm (unsigned _ _)
  · rw [toDigits_injective (List.cons.inj same).2]

theorem decimal_ne_nil (value : Int) : decimal value ≠ [] := by
  rcases decimal_cases value with ⟨number, -, digits⟩ | ⟨number, -, digits⟩
  · rw [digits]
    exact Nat.toDigits_ne_nil
  · simp [digits]

theorem not_mem_decimal {char : Char} (noDigit : char.isDigit = false) (noSign : char ≠ '-')
    (value : Int) : char ∉ decimal value := by
  rcases decimal_cases value with ⟨number, -, digits⟩ | ⟨number, -, digits⟩
  · rw [digits]
    exact not_mem_toDigits noDigit number
  · simp [digits, noSign, not_mem_toDigits noDigit number]

theorem point_not_mem_decimal (value : Int) : '.' ∉ decimal value :=
  not_mem_decimal rfl (by decide) value

theorem space_not_mem_decimal (value : Int) : ' ' ∉ decimal value :=
  not_mem_decimal rfl (by decide) value

/-- The first space, or the end of the text, is the end of a word. -/
theorem word_append_inj {word other rest otherRest : List Char} (spaceless : ' ' ∉ word)
    (otherSpaceless : ' ' ∉ other) (ends : ∀ char ∈ rest.head?, char = ' ')
    (otherEnds : ∀ char ∈ otherRest.head?, char = ' ')
    (same : word ++ rest = other ++ otherRest) : word = other ∧ rest = otherRest := by
  have wordOf : ∀ {word rest : List Char}, ' ' ∉ word → (∀ char ∈ rest.head?, char = ' ') →
      (word ++ rest).takeWhile (· != ' ') = word := by
    intro word rest spaceless ends
    have spaces : ∀ char ∈ word, (char != ' ') = true := by
      intro char member
      rw [bne_iff_ne]
      rintro rfl
      exact spaceless member
    rw [List.takeWhile_append_of_pos spaces]
    cases rest with
    | nil => simp
    | cons first rest => simp [ends first rfl]
  have word_eq : word = other := by
    rw [← wordOf spaceless ends, same, wordOf otherSpaceless otherEnds]
  subst word_eq
  exact ⟨rfl, List.append_cancel_left same⟩

theorem written_head (x : String) (terms : List (ArithmeticOperator × Operand)) :
    ∀ char ∈ (written x terms).head?, char = ' ' := by
  cases terms with
  | nil => simp [written]
  | cons term terms => simp [written]

/-! ## Members and integers are told apart by the first point -/

/-- How many characters stand in front of the first point of a text. -/
def pointAt (text : List Char) : Nat :=
  (text.takeWhile (· != '.')).length

theorem pointAt_append {text : List Char} (pointless : '.' ∉ text) (more : List Char) :
    pointAt (text ++ more) = text.length + pointAt more := by
  have points : ∀ char ∈ text, (char != '.') = true := by
    intro char member
    rw [bne_iff_ne]
    rintro rfl
    exact pointless member
  rw [pointAt, List.takeWhile_append_of_pos points, List.length_append, pointAt]

theorem pointAt_field (x name : String) (more : List Char) :
    pointAt ((Operand.field name).text x ++ more) = pointAt x.toList := by
  have cut : ∀ chars : List Char,
      pointAt (chars ++ '.' :: (name.toList ++ more)) = pointAt chars := by
    intro chars
    induction chars with
    | nil => simp [pointAt]
    | cons char chars ih =>
        unfold pointAt at ih ⊢
        rw [List.cons_append, List.takeWhile_cons, List.takeWhile_cons]
        split <;> simp [ih]
  simpa [Operand.text] using cut x.toList

/-- The first point of some terms is at least as far away as in a member. -/
theorem pointAt_le_written (x : String) {terms : List (ArithmeticOperator × Operand)}
    (pointed : '.' ∈ written x terms) : pointAt x.toList ≤ pointAt (written x terms) := by
  induction terms with
  | nil => cases pointed
  | cons term terms ih =>
      obtain ⟨operator, operand⟩ := term
      have symbol_ne : operator.symbol ≠ '.' := by cases operator <;> decide
      have pointless : '.' ∉ [' ', operator.symbol, ' '] := by simp [symbol_ne.symm]
      have front : pointAt (written x ((operator, operand) :: terms)) =
          3 + pointAt (operand.text x ++ written x terms) := pointAt_append pointless _
      rw [front]
      cases operand with
      | field name =>
          rw [pointAt_field]
          omega
      | constant value =>
          have later : '.' ∈ written x terms := by
            simpa [written, Operand.text, symbol_ne.symm, point_not_mem_decimal value] using pointed
          have bound := ih later
          rw [Operand.text, pointAt_append (point_not_mem_decimal value)]
          omega

theorem constant_ne_field (x name : String) (value : Int)
    (terms : List (ArithmeticOperator × Operand)) (rest : List Char) :
    (Operand.constant value).text x ++ written x terms ≠
      (Operand.field name).text x ++ rest := by
  intro same
  have pointed : '.' ∈ written x terms := by
    have there : '.' ∈ (Operand.field name).text x ++ rest := by simp [Operand.text]
    rw [← same] at there
    simpa [Operand.text, point_not_mem_decimal value] using there
  have bound := pointAt_le_written x pointed
  have positive := List.length_pos_iff.mpr (decimal_ne_nil value)
  have points := congrArg pointAt same
  rw [pointAt_field, Operand.text, pointAt_append (point_not_mem_decimal value)] at points
  omega

/-- Whether the name of an operand, if it has one, is without spaces. -/
def Operand.IsSpaceless : Operand → Prop
  | .field name => ' ' ∉ name.toList
  | .constant _ => True

/-- An operand ends where its text does. -/
theorem operand_append_inj (x : String) {operand other : Operand}
    {terms others : List (ArithmeticOperator × Operand)}
    (spaceless : operand.IsSpaceless) (otherSpaceless : other.IsSpaceless)
    (same : operand.text x ++ written x terms = other.text x ++ written x others) :
    operand = other ∧ written x terms = written x others := by
  cases operand with
  | field name =>
      cases other with
      | field otherName =>
          simp only [Operand.text, List.append_assoc, List.cons_append, List.append_cancel_left_eq,
            List.cons.injEq, true_and] at same
          obtain ⟨name_eq, rest_eq⟩ := word_append_inj spaceless otherSpaceless
            (written_head x terms) (written_head x others) same
          rw [String.toList_inj.mp name_eq]
          exact ⟨rfl, rest_eq⟩
      | constant value => exact absurd same.symm (constant_ne_field x name value others _)
  | constant value =>
      cases other with
      | field name => exact absurd same (constant_ne_field x name value terms _)
      | constant otherValue =>
          obtain ⟨value_eq, rest_eq⟩ := word_append_inj (space_not_mem_decimal value)
            (space_not_mem_decimal otherValue) (written_head x terms) (written_head x others) same
          rw [decimal_injective value_eq]
          exact ⟨rfl, rest_eq⟩

/-- The text of some terms can be read in one way only. -/
theorem written_inj (x : String) {terms others : List (ArithmeticOperator × Operand)}
    (spaceless : ∀ term ∈ terms, term.2.IsSpaceless)
    (otherSpaceless : ∀ term ∈ others, term.2.IsSpaceless)
    (same : written x terms = written x others) : terms = others := by
  induction terms generalizing others with
  | nil =>
      cases others with
      | nil => rfl
      | cons other others => cases same
  | cons term terms ih =>
      cases others with
      | nil => cases same
      | cons other others =>
          obtain ⟨operator, operand⟩ := term
          obtain ⟨otherOperator, otherOperand⟩ := other
          obtain ⟨ownSpaceless, restSpaceless⟩ := List.forall_mem_cons.mp spaceless
          obtain ⟨otherOwn, otherRest⟩ := List.forall_mem_cons.mp otherSpaceless
          simp only [written, List.cons.injEq, true_and] at same
          obtain ⟨symbol_eq, operands_eq⟩ := same
          obtain ⟨rfl, rest_eq⟩ := operand_append_inj x ownSpaceless otherOwn operands_eq
          rw [symbol_injective symbol_eq, ih restSpaceless otherRest rest_eq]

/-! ## The text of a calculation -/

/-- How a calculation is written. -/
def text (x : String) : Arithmetic → String
  | .field member _ => x ++ ("." ++ Render.attributeName member.name)
  | .constant value _ => toString value
  | .binary operator left right _ =>
    left.text x ++ (" " ++ String.singleton operator.symbol ++ " " ++ right.text x)

/-- Behind an operator, the text of a calculation is that of its terms. -/
theorem written_terms (x : String) (tree : Arithmetic) (operator : ArithmeticOperator) :
    written x (tree.terms operator) =
      ' ' :: operator.symbol :: ' ' :: (tree.text x).toList := by
  induction tree generalizing operator with
  | field member type => simp [terms, written, text, Operand.text]
  | constant value type => simp [terms, written, text, Operand.text, decimal]
  | binary inner left right type leftIh rightIh =>
      simp [terms, written_append, leftIh, rightIh, text]

theorem attributeName_spaceless {name : String} (spaceless : ' ' ∉ name.toList) :
    ' ' ∉ (Render.attributeName name).toList := by
  unfold Render.attributeName
  split
  · decide
  · exact spaceless

theorem terms_spaceless {tree : Arithmetic}
    (spaceless : ∀ name ∈ tree.memberNames, ' ' ∉ name.toList) (operator : ArithmeticOperator) :
    ∀ term ∈ tree.terms operator, term.2.IsSpaceless := by
  induction tree generalizing operator with
  | field member type =>
      intro term within
      cases List.mem_singleton.mp within
      exact attributeName_spaceless (spaceless _ (List.mem_singleton.mpr rfl))
  | constant value type =>
      intro term within
      cases List.mem_singleton.mp within
      trivial
  | binary inner left right type leftIh rightIh =>
      intro term within
      rcases List.mem_append.mp within with inLeft | inRight
      · exact leftIh (fun name named => spaceless name (List.mem_append_left _ named)) _ _ inLeft
      · exact rightIh (fun name named => spaceless name (List.mem_append_right _ named)) _ _ inRight

/-- Where no parentheses are needed, the text tells the value. -/
theorem value_eq_of_text_eq {x : String} {tree other : Arithmetic}
    (spaceless : ∀ name ∈ tree.memberNames, ' ' ∉ name.toList)
    (otherSpaceless : ∀ name ∈ other.memberNames, ' ' ∉ name.toList)
    (flat : tree.isFlat) (otherFlat : other.isFlat) (same : tree.text x = other.text x)
    {members : String → Int}
    (keys : ∀ name, members (Render.attributeName name) = members name) :
    tree.value members = other.value members := by
  have terms_eq : tree.terms .add = other.terms .add := by
    apply written_inj x (terms_spaceless spaceless .add) (terms_spaceless otherSpaceless .add)
    rw [written_terms, written_terms, same]
  have total := read_total keys flat ⟨0, 0⟩
  have otherTotal := read_total keys otherFlat ⟨0, 0⟩
  rw [terms_eq, otherTotal] at total
  exact (Int.add_left_cancel total).symm

end Arithmetic

end AqlPipeline
