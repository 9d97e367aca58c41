import AqlPipeline.FormatString
import AqlPipeline.Proofs.Text.Brackets

/-!
# Brackets of format items

The number of an item and its alignment are digits, signs and blanks, so the brackets of an item are
those of its format.
-/

namespace AqlPipeline

open Text (isBracket isBracket_eq_false isBlank Bracketless)

/-! ## Blanks -/

theorem Text.filter_dropWhile_isBlank (chars : List Char) :
    (chars.dropWhile isBlank).filter isBracket = chars.filter isBracket := by
  induction chars with
  | nil => rfl
  | cons char chars ih =>
      by_cases blank : isBlank char
      · have plain : isBracket char = false := isBracket_eq_false (by decide) blank
        simp [blank, plain, ih]
      · simp [blank]

theorem Text.filter_trim (chars : List Char) :
    (trim chars).filter isBracket = chars.filter isBracket := by
  rw [trim, dropRightWhile, List.filter_reverse, filter_dropWhile_isBlank, List.filter_reverse,
    List.reverse_reverse, filter_dropWhile_isBlank]

namespace FormatString

/-! ## Items -/

theorem splitOnce?_eq_some {mark : Char} {chars before after : List Char}
    (split : splitOnce? mark chars = some (before, after)) : chars = before ++ mark :: after := by
  induction chars generalizing before with
  | nil => cases split
  | cons char chars ih =>
      rw [splitOnce?] at split
      split at split
      · rename_i found
        cases split
        rw [found, List.nil_append]
      · obtain ⟨⟨start, rest⟩, later, pair_eq⟩ := Option.map_eq_some_iff.mp split
        cases pair_eq
        rw [ih later, List.cons_append]

theorem bracketless_of_unsigned? {limit number : Nat} {chars : List Char}
    (read : unsigned? limit chars = some number) : Bracketless chars := by
  have plain : ∀ digits : List Char, digits.all isDigit → Bracketless digits :=
    fun digits all char member =>
      isBracket_eq_false (by decide) (List.all_eq_true.mp all char member)
  unfold unsigned? at read
  dsimp only at read
  obtain ⟨valid, -⟩ := (Option.ite_none_right_eq_some ..).mp read
  simp only [Bool.and_eq_true] at valid
  split at valid
  · exact (plain _ valid.1.2).cons rfl
  · exact plain _ valid.1.2

/-- Neither an alignment nor the blanks around it have brackets. -/
theorem bracketless_of_alignment? {chars : List Char} {alignment : String}
    (read : alignment? chars = some alignment) :
    chars.filter isBracket = [] ∧ Bracketless alignment.toList := by
  unfold alignment? at read
  dsimp only at read
  obtain ⟨number, valid, rfl⟩ := Option.map_eq_some_iff.mp read
  have trimmed : Bracketless (Text.trim chars) := by
    split at valid
    · rename_i rest signed
      rw [signed]
      exact (bracketless_of_unsigned? valid).cons rfl
    · exact bracketless_of_unsigned? valid
  rw [String.toList_ofList, ← Text.filter_trim chars]
  exact ⟨trimmed.filter_eq_nil, trimmed⟩

theorem filter_of_unsigned?_trim {limit number : Nat} {chars : List Char}
    (read : unsigned? limit (Text.trim chars) = some number) : chars.filter isBracket = [] := by
  rw [← Text.filter_trim]
  exact (bracketless_of_unsigned? read).filter_eq_nil

/-- What an item says about the argument that fills it in. -/
def Placeholder.details (placeholder : Placeholder) : String :=
  (placeholder.alignment.map (", " ++ ·)).getD "" ++ (placeholder.format.map (":" ++ ·)).getD ""

/-- The brackets of an item are those of its details. -/
theorem filter_of_placeholder? {item : List Char} {placeholder : Placeholder}
    (read : placeholder? item = some placeholder) :
    placeholder.details.toList.filter isBracket = item.filter isBracket := by
  have comma : isBracket ',' = false := rfl
  have colon : isBracket ':' = false := rfl
  have blank : isBracket ' ' = false := rfl
  have aligned : ∀ {front index alignment : List Char} {number : Nat} {width : String},
      splitOnce? ',' front = some (index, alignment) → alignment? alignment = some width →
      unsigned? UInt64.size (Text.trim index) = some number →
      front.filter isBracket = [] ∧ width.toList.filter isBracket = [] := by
    intro front index alignment number width split width_eq number_eq
    obtain ⟨plain, widthPlain⟩ := bracketless_of_alignment? width_eq
    rw [splitOnce?_eq_some split, List.filter_append, filter_of_unsigned?_trim number_eq]
    exact ⟨by simp [comma, plain], widthPlain.filter_eq_nil⟩
  unfold placeholder? at read
  cases divided : splitOnce? ':' item with
  | none =>
      simp only [divided] at read
      split at read
      · split at read
        · rename_i split _ _ width number width_eq number_eq
          cases read
          obtain ⟨plain, widthPlain⟩ := aligned split width_eq number_eq
          simp [Placeholder.details, plain, widthPlain, comma, blank]
        · cases read
      · split at read
        · rename_i number_eq
          cases read
          rw [filter_of_unsigned?_trim number_eq]
          rfl
        · cases read
  | some parts =>
      obtain ⟨front, format⟩ := parts
      rw [splitOnce?_eq_some divided]
      simp only [divided] at read
      split at read
      · split at read
        · rename_i split _ _ width number width_eq number_eq
          cases read
          obtain ⟨plain, widthPlain⟩ := aligned split width_eq number_eq
          simp [Placeholder.details, plain, widthPlain, comma, blank, colon]
        · cases read
      · split at read
        · rename_i number_eq
          cases read
          simp [Placeholder.details, filter_of_unsigned?_trim number_eq, colon]
        · cases read

end FormatString

end AqlPipeline
