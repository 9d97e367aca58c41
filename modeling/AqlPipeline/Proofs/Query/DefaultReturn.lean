import AqlPipeline.Proofs.Query.ClauseWords

/-!
# The return of a pipeline without a projection

A query that does not return anything is given a return of its iteration variable.  Whether it does
is told by the text, so a name with that word in it is taken for a return.
-/

namespace AqlPipeline

/-- Whether a stage yields something else than the rows. -/
def RowStage.isProjection : RowStage → Bool
  | .lambda .select _ _ => true
  | _ => false

/-- Without a projection only names can mention a return. -/
theorem RowStage.hasWord_return {stage : RowStage} (unprojected : stage.isProjection = false) :
    stage.hasWord "return".toList =
      stage.names.any fun name => Text.occursIn "return".toList name.toList := by
  cases stage with
  | lambda stage x term =>
      have wordless : (Text.occursIn "return".toList stage.opening.toList ||
          Text.occursIn "return".toList (stage.closing?.getD "").toList) = false := by
        cases stage with
        | select => cases unprojected
        | _ => decide
      rw [hasWord, wordless, Bool.false_or, names]
  | take count => exact (by decide : Text.occursIn "return".toList "\nLIMIT".toList = false)
  | skip count => rfl

/-- A pipeline without a projection becomes a loop over the clauses of its stages, with the rows to
leave out in the first limit.  It ends with a return of the iteration variable of the loop unless a
parameter or a member has a name that mentions a return: then it does not return anything. -/
theorem unprojected_return {settings : Settings} (compact : settings.pretty = false)
    (element : TypeRef) (stages : List RowStage)
    (unprojected : ∀ stage ∈ stages, stage.isProjection = false) :
    ∃ query footer,
      Query.compile .aql settings (RowStage.pipeline element stages) = .ok query ∧
      query.text = "FOR " ++ RowStage.iterator settings stages ++ " IN " ++
        RowStage.collection settings stages ++ RowStage.body paddedSuffix stages ++ footer ∧
      ((∀ stage ∈ stages, ∀ name ∈ stage.names, ¬ Text.Mentions name "return") →
        footer = "\nRETURN " ++ RowStage.iterator settings stages) ∧
      ((∃ stage ∈ stages, ∃ name ∈ stage.names, Text.Mentions name "return") → footer = "") := by
  have mentioned : Text.occursIn "return".toList (RowStage.clauses paddedSuffix 0 stages).toList ↔
      ∃ stage ∈ stages, ∃ name ∈ stage.names, Text.Mentions name "return" := by
    rw [RowStage.occursIn_clauses .ofReturn, List.any_eq_true]
    refine exists_congr fun stage => and_congr_right fun member => ?_
    rw [RowStage.hasWord_return (unprojected stage member), List.any_eq_true]
    exact exists_congr fun name => and_congr_right fun _ => Text.occursIn_iff_mentions name "return"
  obtain ⟨spans, compiled⟩ := RowStage.compile_pipeline paddedSuffix_injective compact element stages
  refine ⟨_, _, compiled, rfl, fun silent => ?_, fun named => if_pos (mentioned.mpr named)⟩
  refine if_neg fun occurs => ?_
  obtain ⟨stage, member, name, inNames, mentions⟩ := mentioned.mp occurs
  exact silent stage member name inNames mentions

/-- Adults in the order of their names, whatever the parameters are called, without the first
five. -/
def RowStage.laterAdults : List RowStage :=
  [.lambda .filter ⟨"a", .named "User"⟩
      (.compared .greaterThanOrEqual (.member "Age" (.number "Int32")) (.integer 18)
        (.number "Int32") .boolean),
    .lambda .orderBy ⟨"b", .named "User"⟩ (.member "Name" .string),
    .skip 5,
    .take 10]

theorem unprojected_return_laterAdults :
    (∀ stage ∈ RowStage.laterAdults, stage.isProjection = false) ∧
      (∀ stage ∈ RowStage.laterAdults, ∀ name ∈ stage.names, ¬ Text.Mentions name "return") ∧
      ∃ query,
        Query.compile .aql {} (RowStage.pipeline (.named "User") RowStage.laterAdults) =
          .ok query ∧
        query.text =
          "FOR a IN User\nFILTER a.Age >= @p\nSORT b.Name ASC\nLIMIT 5, 10\nRETURN a" := by
  have unprojected : ∀ stage ∈ RowStage.laterAdults, stage.isProjection = false := by
    simp [RowStage.laterAdults, RowStage.isProjection]
  have silent : ∀ stage ∈ RowStage.laterAdults, ∀ name ∈ stage.names,
      ¬ Text.Mentions name "return" := by
    simp only [← Text.occursIn_iff_mentions]
    have checked : RowStage.laterAdults.all fun stage =>
      stage.names.all fun name => !Text.occursIn "return".toList name.toList := rfl
    simpa only [List.all_eq_true, Bool.not_eq_true', Bool.not_eq_true] using checked
  have compact : ({} : Settings).pretty = false := rfl
  obtain ⟨query, footer, compiled, text_eq, returned, -⟩ :=
    unprojected_return compact (.named "User") RowStage.laterAdults unprojected
  refine ⟨unprojected, silent, query, compiled, ?_⟩
  rw [text_eq, returned silent]
  rfl

/-- Books that were returned on a day. -/
def RowStage.returnedBooks : List RowStage :=
  [.lambda .filter ⟨"x", .named "Book"⟩
    (.compared .equal (.member "ReturnDate" (.number "Int32")) (.integer 5) (.number "Int32")
      .boolean)]

/-- A member whose name mentions a return is taken for one, and the query returns nothing. -/
theorem returnedBooks_without_return :
    ∃ query,
      Query.compile .aql {} (RowStage.pipeline (.named "Book") RowStage.returnedBooks) =
        .ok query ∧
      query.text = "FOR x IN Book\nFILTER x.ReturnDate == @p" ∧
      ¬ "\nRETURN x".toList <:+ query.text.toList := by
  refine ⟨_, rfl, ?_, ?_⟩
  · rfl
  · decide

end AqlPipeline
