import AqlPipeline.Proofs.Text.Search

/-!
# Searches across separators

A character that a token does not have, in either case, separates a text for the search of the
token: every occurrence is in front of it or behind it.
-/

namespace AqlPipeline.Text

/-- Whether a character is not in a token, in either case. -/
def Separates (char : Char) (token : List Char) : Prop :=
  char.toLower ∉ token.map Char.toLower

instance (char : Char) (token : List Char) : Decidable (Separates char token) :=
  inferInstanceAs (Decidable (_ ∉ _))

theorem toLower_of_isUpper_eq_false {char : Char} (small : char.isUpper = false) :
    char.toLower = char :=
  dif_neg (of_decide_eq_false small)

theorem isUpper_eq_false_of_isLower {char : Char} (lower : char.isLower) :
    char.isUpper = false := by
  obtain ⟨above, -⟩ := Bool.and_eq_true_iff.mp lower
  refine decide_eq_false fun upper => ?_
  exact absurd (UInt32.le_trans (of_decide_eq_true above) upper.2) (by decide)

/-- Letters are separated by whatever is none. -/
theorem separates_of_isAlpha_eq_false {char : Char} {word : List Char}
    (other : char.isAlpha = false) (letters : word.all Char.isLower) : Separates char word := by
  obtain ⟨notUpper, notLower⟩ := Bool.or_eq_false_iff.mp other
  intro member
  rw [toLower_of_isUpper_eq_false notUpper, List.mem_map] at member
  obtain ⟨wanted, inWord, same⟩ := member
  have lower : wanted.isLower := List.all_eq_true.mp letters wanted inWord
  rw [toLower_of_isUpper_eq_false (isUpper_eq_false_of_isLower lower)] at same
  rw [same, notLower] at lower
  cases lower

theorem isAlpha_eq_false_of_isDigit {char : Char} (digit : char.isDigit) :
    char.isAlpha = false := by
  obtain ⟨-, below⟩ := Bool.and_eq_true_iff.mp digit
  have small : ∀ bound : UInt32, '9'.val < bound → ¬ bound ≤ char.val := by
    intro bound above reached
    have beyond := UInt32.le_trans reached (of_decide_eq_true below)
    exact UInt32.lt_irrefl _ (UInt32.lt_of_lt_of_le above beyond)
  refine Bool.or_eq_false_iff.mpr ⟨?_, ?_⟩
  · exact decide_eq_false fun upper => small 65 (by decide) upper.1
  · exact Bool.and_eq_false_iff.mpr (.inl (decide_eq_false (small 97 (by decide))))

section

variable {token : List Char} {separator : Char}

theorem beginsWith_append_separator (separates : Separates separator token)
    (before after : List Char) :
    beginsWith token (before ++ separator :: after) = beginsWith token before := by
  induction token generalizing before with
  | nil => cases before <;> rfl
  | cons wanted token ih =>
      obtain ⟨other, rest⟩ : separator.toLower ≠ wanted.toLower ∧ Separates separator token := by
        simpa [Separates] using separates
      cases before with
      | nil =>
          have differ : (wanted.toLower == separator.toLower) = false :=
            beq_false_of_ne other.symm
          simp [beginsWith, differ]
      | cons char before => rw [List.cons_append, beginsWith, beginsWith, ih rest]

theorem occursIn_append_separator (separates : Separates separator token)
    (before after : List Char) :
    occursIn token (before ++ separator :: after) =
      (occursIn token before || occursIn token after) := by
  have begins := fun before => beginsWith_append_separator separates before after
  induction before with
  | nil => rw [List.nil_append, occursIn_cons, ← List.nil_append (_ :: _), begins, occursIn_nil]
  | cons char before ih =>
      rw [List.cons_append, occursIn_cons, occursIn_cons, ← List.cons_append, begins, ih,
        Bool.or_assoc]

/-- The first occurrence is behind a separator, if there is one just behind it and none in front. -/
theorem splitBefore?_append_separator (separates : Separates separator token)
    {before after : List Char} (missing : occursIn token before = false)
    (begins : beginsWith token after) :
    splitBefore? token (before ++ separator :: after) = some (before ++ [separator], after) := by
  have passes := fun before => beginsWith_append_separator separates before after
  have found : splitBefore? token after = some ([], after) := by
    cases after <;> rw [splitBefore?, if_pos begins]
  induction before with
  | nil =>
      rw [occursIn_nil] at missing
      rw [List.nil_append, splitBefore?, ← List.nil_append (_ :: _), passes, missing, found]
      rfl
  | cons char before ih =>
      rw [occursIn_cons, Bool.or_eq_false_iff] at missing
      rw [List.cons_append, splitBefore?, ← List.cons_append, passes, missing.1, ih missing.2]
      rfl

end

section

variable {token : List Char} (nonempty : token ≠ [])

include nonempty

theorem occursIn_nil_of_ne_nil : occursIn token [] = false := by
  cases token with
  | nil => exact absurd rfl nonempty
  | cons wanted token => rfl

/-- Separators in front of a text do not matter. -/
theorem occursIn_separators_append {separators : List Char}
    (separate : ∀ char ∈ separators, Separates char token) (text : List Char) :
    occursIn token (separators ++ text) = occursIn token text := by
  induction separators with
  | nil => rfl
  | cons separator separators ih =>
      have first : Separates separator token := separate separator List.mem_cons_self
      have rest := ih fun char member => separate char (List.mem_cons_of_mem _ member)
      have split := occursIn_append_separator first [] (separators ++ text)
      rw [List.cons_append]
      rwa [List.nil_append, occursIn_nil_of_ne_nil nonempty, Bool.false_or, rest] at split

theorem occursIn_separators {separators : List Char}
    (separate : ∀ char ∈ separators, Separates char token) : occursIn token separators = false := by
  rw [← List.append_nil separators, occursIn_separators_append nonempty separate,
    occursIn_nil_of_ne_nil nonempty]

/-- A text that starts with a separator is searched on its own. -/
theorem occursIn_append_of_head {text : List Char} {separator : Char}
    (starts : text.head? = some separator) (separates : Separates separator token)
    (before : List Char) :
    occursIn token (before ++ text) = (occursIn token before || occursIn token text) := by
  obtain ⟨rest, rfl⟩ := List.head?_eq_some_iff.mp starts
  have separate : ∀ char ∈ [separator], Separates char token := by simpa using separates
  rw [occursIn_append_separator separates, ← occursIn_separators_append nonempty separate rest]
  rfl

/-- Separators between two texts keep them apart. -/
theorem occursIn_append_separators {between : List Char} (some : between ≠ [])
    (separate : ∀ char ∈ between, Separates char token) (before after : List Char) :
    occursIn token (before ++ (between ++ after)) =
      (occursIn token before || occursIn token after) := by
  cases between with
  | nil => exact absurd rfl some
  | cons first between =>
      have head : (first :: between ++ after).head? = .some first := rfl
      rw [occursIn_append_of_head nonempty head (separate first List.mem_cons_self),
        occursIn_separators_append nonempty separate]

end

end AqlPipeline.Text
