import AqlPipeline.Proofs.Query.RowPipelines

/-!
# Words in the clauses of a pipeline

The names in a clause stand between dots, blanks, commas and line breaks.  So a word is in the text
of some clauses just when one of their names or of their own words has it.
-/

namespace AqlPipeline

open Text

/-- A word that is not part of any operator, number or bind variable of a clause. -/
structure ClauseWord (word : List Char) : Prop where
  /-- It has letters only. -/
  letters : word.all Char.isLower
  /-- It has some. -/
  nonempty : word ≠ []
  /-- None of them is that of the bind variables. -/
  unbound : Separates 'p' word

namespace ClauseWord

theorem ofReturn : ClauseWord "return".toList := ⟨by decide, by decide, by decide⟩

theorem ofLimit : ClauseWord "limit".toList := ⟨by decide, by decide, by decide⟩

variable {word : List Char} (plain : ClauseWord word)

include plain

theorem separates {char : Char} (other : char.isAlpha = false) : Separates char word :=
  separates_of_isAlpha_eq_false other plain.letters

theorem occursIn_reference (count : Nat) :
    occursIn word ("@" ++ literalNameAt paddedSuffix count).toList = false := by
  have digits : ∀ {number : Nat} {char : Char}, char ∈ Nat.toDigits 10 number →
      Separates char word := fun member =>
    plain.separates (isAlpha_eq_false_of_isDigit
      (Nat.isDigit_of_mem_toDigits (by decide) (by decide) member))
  refine occursIn_separators plain.nonempty fun char member => ?_
  cases count with
  | zero =>
      rcases (by simpa [literalNameAt] using member : char = '@' ∨ char = 'p') with rfl | rfl
      · exact plain.separates rfl
      · exact plain.unbound
  | succ count =>
      simp only [literalNameAt, paddedSuffix, String.toList_append, String.toList_ofList,
        List.mem_append] at member
      rcases member with sign | letter | zero | digit
      · rw [show char = '@' by simpa using sign]
        exact plain.separates rfl
      · rw [show char = 'p' by simpa using letter]
        exact plain.unbound
      · rw [List.eq_of_mem_replicate zero]
        exact plain.separates rfl
      · exact digits digit

/-- Around an operator is no letter. -/
theorem occursIn_operation {operator : BinaryOperator} {symbol : String}
    (symbol_eq : operator.symbol? = some symbol) (before after : List Char) :
    occursIn word (before ++ ((" " ++ symbol ++ " ").toList ++ after)) =
      (occursIn word before || occursIn word after) := by
  have wordless : (" " ++ symbol ++ " ").toList.all (!·.isAlpha) := by
    cases operator <;> cases symbol_eq <;> decide
  refine occursIn_append_separators plain.nonempty (by simp) (fun char member => ?_) before after
  exact plain.separates (by simpa using List.all_eq_true.mp wordless char member)

theorem occursIn_term (x : String) (bound : Nat) (term : RowTerm) :
    occursIn word (term.text paddedSuffix x bound).toList =
      (occursIn word x.toList || term.members.any fun name => occursIn word name.toList) := by
  induction term generalizing bound with
  | member name type =>
      have dot : Separates '.' word := plain.separates rfl
      have dotted := occursIn_append_separator dot x.toList (Render.attributeName name).toList
      simpa [RowTerm.text, RowTerm.members] using dotted
  | operation operator left right type leftIh rightIh =>
      rw [RowTerm.text, String.append_assoc, String.toList_append, String.toList_append,
        plain.occursIn_operation operator.symbol_eq, leftIh, rightIh, RowTerm.members,
        List.any_append]
      cases occursIn word x.toList <;> simp
  | compared comparison left value valueType type leftIh =>
      have symbol_eq : comparison.operator.symbol? = some comparison.symbol := by
        cases comparison <;> rfl
      rw [RowTerm.text, String.append_assoc, String.toList_append, String.toList_append,
        plain.occursIn_operation symbol_eq, leftIh, plain.occursIn_reference, RowTerm.members,
        Bool.or_false]

/-- The words of a stage end with a blank. -/
theorem occursIn_opening (stage : LambdaStage) (after : List Char) :
    occursIn word (stage.opening.toList ++ after) =
      (occursIn word stage.opening.toList || occursIn word after) := by
  obtain ⟨start, opening_eq⟩ : ∃ start, stage.opening.toList = start ++ [' '] := by
    cases stage
    · exact ⟨"\nFILTER".toList, rfl⟩
    · exact ⟨"\nSORT".toList, rfl⟩
    · exact ⟨"\nSORT".toList, rfl⟩
    · exact ⟨",".toList, rfl⟩
    · exact ⟨",".toList, rfl⟩
    · exact ⟨"\nRETURN".toList, rfl⟩
  have blank : Separates ' ' word := plain.separates rfl
  rw [opening_eq, List.append_assoc, List.singleton_append, occursIn_append_separator blank,
    occursIn_append_separator blank, occursIn_nil_of_ne_nil plain.nonempty, Bool.or_false]

theorem occursIn_closing (stage : LambdaStage) (before : List Char) :
    occursIn word (before ++ (stage.closing?.getD "").toList) =
      (occursIn word before || occursIn word (stage.closing?.getD "").toList) := by
  have blank : Separates ' ' word := plain.separates rfl
  cases closing : stage.closing? with
  | none => simp [occursIn_nil_of_ne_nil plain.nonempty]
  | some text =>
      have head : text.toList.head? = some ' ' := by
        cases stage <;> cases closing <;> rfl
      exact occursIn_append_of_head plain.nonempty head blank before

end ClauseWord

namespace RowStage

/-- Whether the names of a stage or its own words have a word. -/
def hasWord (word : List Char) : RowStage → Bool
  | .lambda stage x term =>
    occursIn word stage.opening.toList || occursIn word (stage.closing?.getD "").toList ||
      (x.name :: term.members).any fun name => occursIn word name.toList
  | .take _ => occursIn word "\nLIMIT".toList
  | .skip _ => false

variable {word : List Char} (plain : ClauseWord word)

include plain

theorem occursIn_clause (bound : Nat) (stage : RowStage) :
    occursIn word (stage.clause paddedSuffix bound).toList = stage.hasWord word := by
  cases stage with
  | lambda stage x term =>
      rw [clause, String.append_assoc, String.toList_append, plain.occursIn_opening,
        String.toList_append, plain.occursIn_closing, plain.occursIn_term, hasWord, List.any_cons]
      ac_rfl
  | take count =>
      have number : occursIn word (toString count.toInt).toList = false :=
        occursIn_separators plain.nonempty fun char member =>
          plain.separates (Writer.isAlpha_of_mem_toString member)
      have blank : Separates ' ' word := plain.separates rfl
      have split := occursIn_append_separator blank "\nLIMIT".toList (toString count.toInt).toList
      rw [number, Bool.or_false] at split
      rw [clause, String.toList_append]
      exact split
  | skip count => exact occursIn_nil_of_ne_nil plain.nonempty

/-- Every clause starts on a new line or behind a comma. -/
theorem clauses_start (bound : Nat) (stages : List RowStage) :
    (clauses paddedSuffix bound stages).toList = [] ∨
      ∃ separator, (clauses paddedSuffix bound stages).toList.head? = some separator ∧
        Separates separator word := by
  have line : Separates '\n' word := plain.separates rfl
  induction stages generalizing bound with
  | nil => exact .inl rfl
  | cons stage stages ih =>
      cases stage with
      | lambda stage x term =>
          simp only [clauses, clause, String.toList_append, List.append_assoc]
          cases stage with
          | thenBy => exact .inr ⟨',', rfl, plain.separates rfl⟩
          | thenByDescending => exact .inr ⟨',', rfl, plain.separates rfl⟩
          | _ => exact .inr ⟨'\n', rfl, line⟩
      | take count =>
          simp only [clauses, clause, String.toList_append, List.append_assoc]
          exact .inr ⟨'\n', rfl, line⟩
      | skip count => simpa [clauses, clause, constants] using ih bound

/-- A word is in the text of some clauses just when it is in one of their names or words. -/
theorem occursIn_clauses (bound : Nat) (stages : List RowStage) :
    occursIn word (clauses paddedSuffix bound stages).toList = stages.any (hasWord word) := by
  induction stages generalizing bound with
  | nil => exact occursIn_nil_of_ne_nil plain.nonempty
  | cons stage stages ih =>
      have own := occursIn_clause plain bound stage
      have others := ih (bound + stage.constants.length)
      rw [clauses, String.toList_append, List.any_cons, ← own, ← others]
      rcases clauses_start plain (bound + stage.constants.length) stages with
        empty | ⟨separator, starts, separates⟩
      · rw [empty, List.append_nil, occursIn_nil_of_ne_nil plain.nonempty, Bool.or_false]
      · exact occursIn_append_of_head plain.nonempty starts separates _

end RowStage

end AqlPipeline
