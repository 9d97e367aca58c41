import AqlPipeline.Proofs.Query.ClauseWords

/-!
# Rows to leave out

The number of rows to leave out belongs in front of the number of rows to take, and nothing else of
the query depends on it.  The limit is found by its word, so it is missed where an earlier clause
mentions that word.
-/

namespace AqlPipeline

namespace Text

/-- Something without a stop cannot be moved from in front of the first stop to behind it. -/
theorem append_ne_of_stop {stop : Char} {inserted : List Char} (some : inserted ≠ [])
    (free : stop ∉ inserted) (front after other : List Char) :
    inserted ++ (front ++ stop :: after) ≠ front ++ stop :: other := by
  induction front generalizing inserted with
  | nil =>
      obtain ⟨first, inserted, rfl⟩ := List.exists_cons_of_ne_nil some
      intro same
      rw [(List.cons.inj same).1] at free
      exact free List.mem_cons_self
  | cons char front ih =>
      obtain ⟨first, inserted, rfl⟩ := List.exists_cons_of_ne_nil some
      intro same
      obtain ⟨rfl, rest⟩ := List.cons.inj same
      -- the first character has to come around to the end
      have turned : stop ∉ inserted ++ [first] := by
        simpa [List.mem_cons, or_comm] using free
      exact ih (by simp) turned (by simpa using rest)

/-- Where a token occurs, so does its beginning, in either case. -/
theorem occursIn_of_beginning {token start more text : List Char}
    (token_eq : token.map Char.toLower = start.map Char.toLower ++ more)
    (occurs : occursIn token text) : occursIn start text := by
  obtain ⟨before, found, after, rfl, same⟩ := occursIn_iff.mp occurs
  rw [token_eq, List.map_eq_append_iff] at same
  obtain ⟨beginning, rest, rfl, start_eq, -⟩ := same
  exact occursIn_iff.mpr ⟨before, beginning, rest ++ after, by simp, start_eq⟩

/-- What is inserted into a limit stands in it just when no limit is mentioned before. -/
theorem insertedBehind_limit_iff {inserted : List Char} (some : inserted ≠ [])
    (free : '\n' ∉ inserted) (front after : List Char) :
    insertedBehind "LIMIT ".toList inserted (front ++ ("\nLIMIT ".toList ++ after)) =
        front ++ ("\nLIMIT ".toList ++ (inserted ++ after)) ↔
      ¬ occursIn "LIMIT ".toList front := by
  constructor
  · intro same occurs
    obtain ⟨⟨first, second⟩, split⟩ : ∃ parts, splitBehind? "LIMIT ".toList front = .some parts :=
      Option.isSome_iff_exists.mp (Option.isSome_map.trans occurs)
    obtain ⟨start, found, rfl, rfl, -, again⟩ := splitBehind?_eq_some split
    have patched := again (second ++ ("\nLIMIT ".toList ++ after))
    simp only [← List.append_assoc] at patched same
    simp only [insertedBehind, patched] at same
    simp only [List.append_assoc, List.append_cancel_left_eq] at same
    exact append_ne_of_stop some free second _ _ same
  · intro missing
    have line : Separates '\n' "LIMIT ".toList := by decide
    have begins : beginsWith "LIMIT ".toList ("LIMIT ".toList ++ after) :=
      beginsWith_iff.mpr ⟨_, _, rfl, rfl⟩
    have split := splitBefore?_append_separator line (by simpa using missing) begins
    have found : splitBehind? "LIMIT ".toList (front ++ ("\nLIMIT ".toList ++ after)) =
        .some (front ++ ['\n'] ++ "LIMIT ".toList, after) := by
      rw [splitBehind?]
      exact congrArg (Option.map _) split
    rw [insertedBehind, found]
    simp

end Text

/-- A number of rows is put into a limit just when no limit is mentioned before. -/
theorem Writer.patchedText_limit_iff (front after : String) (count : Int) :
    String.ofList (patchedText (front ++ ("\nLIMIT " ++ after)).toList count) =
        front ++ ("\nLIMIT " ++ (toString count ++ ", " ++ after)) ↔
      ¬ Text.Mentions front "LIMIT " := by
  have free : '\n' ∉ (toString count ++ ", ").toList := by
    rw [String.toList_append, List.mem_append, not_or]
    refine ⟨fun member => ?_, by decide⟩
    rcases isDigit_of_mem_toString member with sign | digit
    · cases sign
    · cases digit
  rw [← Text.occursIn_iff_mentions, ← Text.insertedBehind_limit_iff (by simp) free _ after.toList,
    ← String.toList_inj, patchedText]
  simp only [String.toList_ofList, String.toList_append, List.append_assoc]
  rfl

namespace RowStage

/-! ## The pipeline without its rows to leave out -/

/-- The stages that do not leave out rows. -/
def kept (stages : List RowStage) : List RowStage :=
  stages.filter fun stage => !stage.isSkip

theorem clauses_kept (suffix : Nat → String) (bound : Nat) (stages : List RowStage) :
    clauses suffix bound (kept stages) = clauses suffix bound stages := by
  induction stages generalizing bound with
  | nil => rfl
  | cons stage stages ih =>
      cases stage with
      | skip count => simpa [kept, isSkip, clauses, clause, constants] using ih bound
      | _ => simpa [kept, isSkip, clauses] using ih _

theorem flatMap_constants_kept (stages : List RowStage) :
    (kept stages).flatMap constants = stages.flatMap constants := by
  induction stages with
  | nil => rfl
  | cons stage stages ih =>
      cases stage with
      | skip count => simpa [kept, isSkip, constants] using ih
      | _ => simpa [kept, isSkip] using ih

theorem firstParameter?_kept (stages : List RowStage) :
    firstParameter? (kept stages) = firstParameter? stages := by
  induction stages with
  | nil => rfl
  | cons stage stages ih =>
      cases stage with
      | lambda stage x term => rfl
      | _ => simpa [kept, isSkip, firstParameter?] using ih

theorem flatMap_skips_kept (stages : List RowStage) : (kept stages).flatMap skips = [] := by
  refine List.flatMap_eq_nil_iff.mpr fun stage member => ?_
  have retained := (List.mem_filter.mp member).2
  cases stage with
  | skip count => cases retained
  | _ => rfl

theorem flatMap_skips_filter (stages : List RowStage) :
    (stages.filter isPaging).flatMap skips = stages.flatMap skips := by
  induction stages with
  | nil => rfl
  | cons stage stages ih =>
      cases stage with
      | lambda stage x term => exact ih
      | _ => rw [List.filter_cons_of_pos rfl, List.flatMap_cons, List.flatMap_cons, ih]

/-- Without its rows to leave out, a pipeline has its clauses as they are. -/
theorem compile_kept {suffix : Nat → String} (distinct : Function.Injective suffix)
    {settings : Settings} (compact : settings.pretty = false) (element : TypeRef)
    (stages : List RowStage) :
    ∃ spans, Query.compileWith suffix .aql settings (pipeline element (kept stages)) = .ok
      { text := header settings stages ++ clauses suffix 0 stages ++ footer suffix settings stages
        binds := literalEntries suffix (stages.flatMap constants)
        spans
        gaps := []
        projectionType := none } := by
  have body_eq : body suffix (kept stages) = clauses suffix 0 stages := by
    rw [body, flatMap_skips_kept, clauses_kept]
    exact String.ofList_toList
  have header_eq : header settings (kept stages) = header settings stages := by
    simp only [header, iterator, collection, firstParameter?_kept]
  have footer_eq : footer suffix settings (kept stages) = footer suffix settings stages := by
    simp only [footer, clauses_kept, iterator, firstParameter?_kept]
  obtain ⟨spans, compiled⟩ := compile_pipeline distinct compact element (kept stages)
  rw [flatMap_constants_kept, body_eq, header_eq, footer_eq] at compiled
  exact ⟨spans, compiled⟩

/-! ## Names in front of the limit -/

/-- Without a limit among them, only the names of some stages can mention one. -/
theorem not_mentions_limit {stages : List RowStage}
    (unlimited : ∀ stage ∈ stages, stage.isPaging → stage.isSkip)
    (unnamed : ∀ stage ∈ stages, ∀ name ∈ stage.names, ¬ Text.Mentions name "limit")
    (bound : Nat) : ¬ Text.Mentions (clauses paddedSuffix bound stages) "LIMIT " := by
  rw [← Text.occursIn_iff_mentions]
  intro occurs
  have lower : "LIMIT ".toList.map Char.toLower = "limit".toList.map Char.toLower ++ [' '] := by
    decide
  have word := Text.occursIn_of_beginning lower occurs
  rw [occursIn_clauses .ofLimit, List.any_eq_true] at word
  obtain ⟨stage, member, has⟩ := word
  cases stage with
  | lambda stage x term =>
      have wordless : (Text.occursIn "limit".toList stage.opening.toList ||
          Text.occursIn "limit".toList (stage.closing?.getD "").toList) = false := by
        cases stage <;> decide
      rw [hasWord, wordless, Bool.false_or, List.any_eq_true] at has
      obtain ⟨name, inNames, occurs⟩ := has
      exact unnamed _ member name inNames ((Text.occursIn_iff_mentions name "limit").mp occurs)
  | take count => exact absurd (unlimited _ member rfl) (by simp [isSkip])
  | skip count => cases has

end RowStage

/-- A pipeline that takes some rows and leaves out others becomes the query of the same pipeline
without the rows to leave out, with their number put in front of the number of rows to take, just
when no clause in front of the limit mentions one; and none does if no name in them has the word.
All else is unchanged. -/
theorem skip_in_limit {settings : Settings} (compact : settings.pretty = false)
    (element : TypeRef) (before after : List RowStage) (taken skipped : Int64)
    (paging : (before ++ after).filter RowStage.isPaging = [.skip skipped]) :
    ∃ query plain,
      Query.compile .aql settings
        (RowStage.pipeline element (before ++ .take taken :: after)) = .ok query ∧
      Query.compile .aql settings
        (RowStage.pipeline element (RowStage.kept (before ++ .take taken :: after))) = .ok plain ∧
      plain.text = RowStage.header settings (before ++ .take taken :: after) ++
        RowStage.clauses paddedSuffix 0 before ++ "\nLIMIT " ++ toString taken.toInt ++
        RowStage.clauses paddedSuffix (before.flatMap RowStage.constants).length after ++
        RowStage.footer paddedSuffix settings (before ++ .take taken :: after) ∧
      (query.text = RowStage.header settings (before ++ .take taken :: after) ++
        RowStage.clauses paddedSuffix 0 before ++ "\nLIMIT " ++ toString skipped.toInt ++ ", " ++
        toString taken.toInt ++
        RowStage.clauses paddedSuffix (before.flatMap RowStage.constants).length after ++
        RowStage.footer paddedSuffix settings (before ++ .take taken :: after) ↔
        ¬ Text.Mentions (RowStage.clauses paddedSuffix 0 before) "LIMIT ") ∧
      ((∀ stage ∈ before, ∀ name ∈ stage.names, ¬ Text.Mentions name "limit") →
        ¬ Text.Mentions (RowStage.clauses paddedSuffix 0 before) "LIMIT ") ∧
      query.binds = plain.binds ∧ query.gaps = plain.gaps ∧
      query.projectionType = plain.projectionType := by
  let stages := before ++ .take taken :: after
  let front := RowStage.clauses paddedSuffix 0 before
  let back := RowStage.clauses paddedSuffix (before.flatMap RowStage.constants).length after
  have clauses_eq : RowStage.clauses paddedSuffix 0 stages =
      front ++ ("\nLIMIT " ++ (toString taken.toInt ++ back)) := by
    simp [stages, front, back, RowStage.clauses_append, RowStage.clauses, RowStage.clause,
      RowStage.constants, String.append_assoc]
  have skips_eq : stages.flatMap RowStage.skips = [skipped.toInt] := by
    have others : (before ++ after).flatMap RowStage.skips = [skipped.toInt] := by
      rw [← RowStage.flatMap_skips_filter, paging]
      rfl
    simpa [stages, RowStage.skips] using others
  have unlimited : ∀ stage ∈ before, stage.isPaging → stage.isSkip := by
    intro stage member counts
    have found : stage ∈ (before ++ after).filter RowStage.isPaging :=
      List.mem_filter.mpr ⟨List.mem_append_left _ member, counts⟩
    rw [paging, List.mem_singleton] at found
    rw [found]
    rfl
  obtain ⟨spans, compiled⟩ :=
    RowStage.compile_pipeline paddedSuffix_injective compact element stages
  obtain ⟨plainSpans, plainCompiled⟩ :=
    RowStage.compile_kept paddedSuffix_injective compact element stages
  refine ⟨_, _, compiled, plainCompiled, ?_, ?_, ?_, rfl, rfl, rfl⟩
  · rw [clauses_eq]
    simp only [String.append_assoc]
    rfl
  · have body_eq : RowStage.body paddedSuffix stages = .ofList (Writer.patchedText
        (front ++ ("\nLIMIT " ++ (toString taken.toInt ++ back))).toList skipped.toInt) := by
      rw [RowStage.body, skips_eq, clauses_eq]
      rfl
    have around : ∀ text other : String,
        RowStage.header settings stages ++ text ++ RowStage.footer paddedSuffix settings stages =
          RowStage.header settings stages ++ other ++ RowStage.footer paddedSuffix settings stages ↔
        text = other := fun _ _ => by
      rw [String.append_left_inj, String.append_right_inj]
    rw [← Writer.patchedText_limit_iff _ (toString taken.toInt ++ back) skipped.toInt, ← body_eq,
      ← around (RowStage.body paddedSuffix stages)]
    simp only [String.append_assoc]
    rfl
  · exact fun unnamed => RowStage.not_mentions_limit unlimited unnamed 0

/-- The next ten users behind the first five, in the order of their names, with their limits. -/
def RowStage.nextLimits : List RowStage × List RowStage :=
  ([.skip 5, .lambda .orderBy ⟨"x", .named "User"⟩ (.member "Name" .string)],
    [.lambda .select ⟨"x", .named "User"⟩ (.member "Limit" (.number "Int32"))])

theorem skip_in_limit_nextLimits :
    (RowStage.nextLimits.1 ++ RowStage.nextLimits.2).filter RowStage.isPaging = [.skip 5] ∧
      ∃ query,
        Query.compile .aql {} (RowStage.pipeline (.named "User")
          (RowStage.nextLimits.1 ++ .take 10 :: RowStage.nextLimits.2)) = .ok query ∧
        query.text = "FOR x IN User\nSORT x.Name ASC\nLIMIT 5, 10\nRETURN x.Limit" := by
  have paging : (RowStage.nextLimits.1 ++ RowStage.nextLimits.2).filter RowStage.isPaging =
      [.skip 5] := rfl
  have compact : ({} : Settings).pretty = false := rfl
  obtain ⟨query, plain, compiled, -, -, replaced, -⟩ :=
    skip_in_limit compact (.named "User") _ _ 10 5 paging
  have silent : ¬ Text.Mentions (RowStage.clauses paddedSuffix 0 RowStage.nextLimits.1) "LIMIT " := by
    rw [← Text.occursIn_iff_mentions]
    decide
  refine ⟨paging, query, compiled, ?_⟩
  rw [replaced.mpr silent]
  rfl

/-- The users with the highest limits. -/
def RowStage.highestLimits : List RowStage :=
  [.lambda .orderByDescending ⟨"x", .named "User"⟩ (.member "Limit" (.number "Int32")),
    .take 10,
    .skip 5]

/-- A member whose name ends with the word is taken for the limit. -/
theorem highestLimits_misplaced :
    ∃ query plain,
      Query.compile .aql {} (RowStage.pipeline (.named "User") RowStage.highestLimits) =
        .ok query ∧
      Query.compile .aql {}
        (RowStage.pipeline (.named "User") (RowStage.kept RowStage.highestLimits)) = .ok plain ∧
      query.text = "FOR x IN User\nSORT x.Limit 5, DESC\nLIMIT 10\nRETURN x" ∧
      plain.text = "FOR x IN User\nSORT x.Limit DESC\nLIMIT 10\nRETURN x" := by
  refine ⟨_, _, rfl, rfl, ?_, ?_⟩
  · rfl
  · rfl

end AqlPipeline
