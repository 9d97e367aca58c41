import AqlPipeline.Dialect
import AqlPipeline.Proofs.Text.Brackets

/-!
# Brackets of spelled values and types

Numbers have no brackets, strings have those of their text, and arrays and objects have a pair
around what is inside of them.  Types have a pair for each rank behind their name.
-/

namespace AqlPipeline

open Text (isBracket isBracket_eq_false Bracketless Balanced)

/-! ## Numbers -/

theorem bracketless_toDigits (number : Nat) : Bracketless (Nat.toDigits 10 number) := by
  intro char member
  have digit : char.isDigit := Nat.isDigit_of_mem_toDigits (by decide) (by decide) member
  exact isBracket_eq_false (by decide) digit

theorem bracketless_toString (number : Int) : Bracketless (toString number).toList := by
  rw [Int.toString_eq_repr]
  cases number with
  | ofNat number =>
      rw [Int.repr, Nat.toList_repr]
      exact bracketless_toDigits number
  | negSucc number =>
      rw [Int.repr, String.toList_append, Nat.toList_repr]
      exact .append (by decide) (bracketless_toDigits _)

theorem bracketless_layOut {digits : List Char} (plain : Bracketless digits) (point : Int) :
    Bracketless (Double.layOut digits point) := by
  have zeros : ∀ count, Bracketless (List.replicate count '0') := .replicate rfl
  unfold Double.layOut
  split
  · exact (((zeros _).append plain).cons rfl).cons rfl
  · split
    · dsimp only
      split
      · exact (plain.append (zeros _)).append (by decide)
      · have whole : Bracketless (digits.take point.toNat) := fun char member =>
          plain char (List.mem_of_mem_take member)
        have fraction : Bracketless (digits.drop point.toNat) := fun char member =>
          plain char (List.mem_of_mem_drop member)
        exact whole.append (fraction.cons rfl)
    · have scaled : Bracketless ('e' :: (if point - 1 < 0 then '-' else '+') ::
          Double.digitsOf (point - 1).natAbs) := by
        refine .cons rfl (.cons ?_ (bracketless_toDigits _))
        split <;> rfl
      dsimp only
      split
      · exact scaled
      · exact scaled.cons (plain _ List.mem_cons_self)
      · obtain ⟨own, others⟩ := List.forall_mem_cons.mp plain
        exact ((Bracketless.append others scaled).cons rfl).cons own

theorem bracketless_toText (double : Double) : Bracketless double.toText.toList := by
  have signed : Bracketless (if double.isNegative then ['-'] else []) := by
    split <;> decide
  unfold Double.toText
  dsimp only
  split
  · rw [String.toList_ofList]
    exact signed.append (by decide)
  · rw [String.toList_ofList]
    refine signed.append (bracketless_layOut ?_ _)
    intro char member
    have digit := (List.dropWhile_sublist _).mem (List.mem_reverse.mp member)
    exact bracketless_toDigits _ char (List.mem_reverse.mp digit)

/-! ## Values -/

namespace Json

mutual

/-- The strings in a value, and the names of its members. -/
def texts : Json → List String
  | .string text => [text]
  | .array items => itemTexts items
  | .object members => memberTexts members
  | .null | .bool _ | .integer _ | .float _ => []

/-- The texts of some values. -/
def itemTexts : List Json → List String
  | [] => []
  | item :: items => item.texts ++ itemTexts items

/-- The texts of some members. -/
def memberTexts : List (String × Json) → List String
  | [] => []
  | (name, value) :: members => name :: (value.texts ++ memberTexts members)

end

/-- Escaping a character does not change brackets. -/
theorem filter_escape (char : Char) :
    (escape char).filter isBracket = [char].filter isBracket := by
  have hexadecimal : ∀ number < 16, isBracket (hexDigit number) = false := by decide
  unfold escape
  split
  case h_8 =>
    split
    · rename_i control
      have printed : Text.brackets.all fun char => !decide (char.toNat < 0x20) := by decide
      have plain : isBracket char = false :=
        isBracket_eq_false printed (decide_eq_true control)
      have first := hexadecimal (char.toNat / 16) (by omega)
      have second := hexadecimal (char.toNat % 16) (by omega)
      simp [plain, first, second, show isBracket '\\' = false from rfl,
        show isBracket 'u' = false from rfl, show isBracket '0' = false from rfl]
    · rfl
  all_goals rfl

theorem balanced_quote {text : String} (balanced : Balanced text) : Balanced (quote text) := by
  have mark : isBracket '\x22' = false := rfl
  have escaped : (text.toList.flatMap escape).filter isBracket = text.toList.filter isBracket := by
    rw [List.filter_flatMap]
    induction text.toList with
    | nil => rfl
    | cons char chars ih => rw [List.flatMap_cons, ih, filter_escape, ← List.filter_append]; rfl
  refine balanced.congr ?_
  simp [quote, mark, escaped]

theorem balanced_scalarText {value : Json} (balanced : ∀ text ∈ value.texts, Balanced text) :
    Balanced value.scalarText := by
  cases value with
  | null => decide
  | bool value => cases value <;> decide
  | integer value => exact (bracketless_toString value).nests
  | float value => exact (bracketless_toText value).nests
  | string text => exact balanced_quote (balanced text List.mem_cons_self)
  | array items => exact show Balanced "[]" by decide
  | object members => exact show Balanced "\x7b\x7d" by decide

mutual

/-- The brackets of a spelled value match if those of its texts do. -/
theorem balanced_compact : (value : Json) → (∀ text ∈ value.texts, Balanced text) →
    Balanced value.compact
  | .array items, balanced =>
    (balanced_compactItems items balanced).enclosed ']' (by decide) (by decide)
  | .object members, balanced =>
    (balanced_compactMembers members balanced).enclosed '\x7d' (by decide) (by decide)
  | .null, balanced => balanced_scalarText balanced
  | .bool _, balanced => balanced_scalarText balanced
  | .integer _, balanced => balanced_scalarText balanced
  | .float _, balanced => balanced_scalarText balanced
  | .string _, balanced => balanced_scalarText balanced

theorem balanced_compactItems : (items : List Json) → (∀ text ∈ itemTexts items, Balanced text) →
    Balanced (compactItems items)
  | [], _ => show Balanced "" by decide
  | [item], balanced =>
    balanced_compact item (List.forall_mem_append.mp balanced).1
  | item :: second :: items, balanced => by
    obtain ⟨own, others⟩ := List.forall_mem_append.mp balanced
    exact ((balanced_compact item own).append (by decide)).append
      (balanced_compactItems (second :: items) others)

theorem balanced_compactMembers : (members : List (String × Json)) →
    (∀ text ∈ memberTexts members, Balanced text) → Balanced (compactMembers members)
  | [], _ => show Balanced "" by decide
  | [(name, value)], balanced => by
    obtain ⟨named, others⟩ := List.forall_mem_cons.mp balanced
    exact ((balanced_quote named).append (by decide)).append
      (balanced_compact value (List.forall_mem_append.mp others).1)
  | (name, value) :: second :: members, balanced => by
    obtain ⟨named, others⟩ := List.forall_mem_cons.mp balanced
    obtain ⟨own, others⟩ := List.forall_mem_append.mp others
    have divided : Balanced ":" := by decide
    have member := ((balanced_quote named).append divided).append (balanced_compact value own)
    exact (member.append (by decide)).append (balanced_compactMembers (second :: members) others)

end

end Json

/-! ## Types -/

theorem TypeRef.balanced_brackets (rank : UInt32) : Balanced (brackets rank) := by
  have commas : Bracketless (List.replicate (rank.toNat - 1) ',') := .replicate rfl _
  have inside : Balanced (String.ofList (List.replicate (rank.toNat - 1) ',')) := by
    rw [Text.Balanced, String.toList_ofList]
    exact commas.nests
  exact inside.enclosed ']' (by decide) (by decide)

theorem TypeRef.balanced_join_brackets (ranks : List UInt32) :
    Balanced (String.join (ranks.map brackets)) := by
  induction ranks with
  | nil => exact show Balanced "" by decide
  | cons rank ranks ih =>
      rw [List.map_cons, String.join_cons]
      exact (balanced_brackets rank).append ih

theorem TypeRef.balanced_spelling {type : TypeRef} (balanced : Balanced type.root.name) :
    Balanced type.spelling :=
  balanced.append (balanced_join_brackets type.ranks)

end AqlPipeline
