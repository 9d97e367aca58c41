import AqlPipeline.Proofs.Text.Cut
import AqlPipeline.Proofs.Text.Separators
import AqlPipeline.Query

/-!
# The text of a finished query

The numbers of rows to leave out are inserted behind the first limit.  Nothing is lost by that: the
text before can be told from the text after, and a body that returned something still does.
-/

namespace AqlPipeline

namespace Text

/-! ## First occurrences -/

/-- Only as many characters as the token has are looked at. -/
theorem beginsWith_append {token text : List Char} (long : token.length ≤ text.length)
    (more : List Char) : beginsWith token (text ++ more) = beginsWith token text := by
  induction token generalizing text with
  | nil => cases text <;> cases more <;> rfl
  | cons wanted token ih =>
      cases text with
      | nil => simp at long
      | cons char text =>
          rw [List.cons_append, beginsWith, beginsWith, ih (by simpa using long)]

theorem splitBefore?_of_beginsWith {token text : List Char} (begins : beginsWith token text) :
    splitBefore? token text = some ([], text) := by
  cases text <;> rw [splitBefore?, if_pos begins]

theorem beginsWith_of_splitBefore? {token text before after : List Char}
    (split : splitBefore? token text = some (before, after)) : beginsWith token after := by
  induction text generalizing before with
  | nil =>
      rw [splitBefore?] at split
      split at split
      · cases split
        assumption
      · cases split
  | cons char text ih =>
      rw [splitBefore?] at split
      split at split
      · cases split
        assumption
      · obtain ⟨⟨start, rest⟩, found, pair_eq⟩ := Option.map_eq_some_iff.mp split
        cases pair_eq
        exact ih found

/-- What stands behind the first occurrence does not matter for finding it. -/
theorem splitBefore?_append {token before found after : List Char}
    (length_eq : found.length = token.length)
    (split : splitBefore? token (before ++ (found ++ after)) = some (before, found ++ after))
    (other : List Char) :
    splitBefore? token (before ++ (found ++ other)) = some (before, found ++ other) := by
  have enough : token.length ≤ found.length := Nat.le_of_eq length_eq.symm
  induction before with
  | nil =>
      have begins := beginsWith_of_splitBefore? split
      rw [beginsWith_append enough] at begins
      apply splitBefore?_of_beginsWith
      rwa [List.nil_append, beginsWith_append enough]
  | cons char before ih =>
      have long : token.length ≤ (char :: before ++ found).length := by simp; omega
      rw [List.cons_append, splitBefore?] at split ⊢
      split at split
      · cases split
      · rename_i missed
        rw [← List.cons_append, ← List.append_assoc, beginsWith_append long] at missed
        obtain ⟨⟨start, rest⟩, inner, pair_eq⟩ := Option.map_eq_some_iff.mp split
        cases pair_eq
        rw [← List.cons_append, ← List.append_assoc, beginsWith_append long, if_neg missed,
          ih inner]
        rfl

/-- A split behind a token: the token, up to case, is what the first part ends with. -/
theorem splitBehind?_eq_some {token text before after : List Char}
    (split : splitBehind? token text = some (before, after)) :
    ∃ start found, before = start ++ found ∧ text = start ++ (found ++ after) ∧
      found.map Char.toLower = token.map Char.toLower ∧
      ∀ other, splitBehind? token (before ++ other) = some (before, other) := by
  obtain ⟨⟨start, rest⟩, first, pair_eq⟩ := Option.map_eq_some_iff.mp split
  have text_eq := eq_append_of_splitBefore? first
  obtain ⟨found, behind, rfl, same⟩ := beginsWith_iff.mp (beginsWith_of_splitBefore? first)
  have length_eq : found.length = token.length := by simpa using congrArg List.length same
  simp only [List.take_left' length_eq, List.drop_left' length_eq, Prod.mk.injEq] at pair_eq
  obtain ⟨rfl, rfl⟩ := pair_eq
  refine ⟨start, found, rfl, text_eq, same, fun other => ?_⟩
  have again := splitBefore?_append length_eq (text_eq ▸ first) other
  rw [splitBehind?, List.append_assoc, again]
  simp [List.take_left' length_eq, List.drop_left' length_eq]

/-! ## Insertions -/

/-- The text with something inserted behind the first occurrence of a token, if there is one. -/
def insertedBehind (token inserted text : List Char) : List Char :=
  match splitBehind? token text with
  | some (before, after) => before ++ (inserted ++ after)
  | none => text

/-- Where something has been inserted can be found again, and so what it was inserted into. -/
theorem insertedBehind_injective (token inserted : List Char) :
    Function.Injective (insertedBehind token inserted) := by
  have refound : ∀ {text before after}, splitBehind? token text = some (before, after) →
      splitBehind? token (insertedBehind token inserted text) = some (before, inserted ++ after) ∧
        text = before ++ after := by
    intro text before after split
    obtain ⟨start, found, rfl, text_eq, -, again⟩ := splitBehind?_eq_some split
    rw [insertedBehind, split]
    exact ⟨again _, by rw [text_eq, List.append_assoc]⟩
  have untouched : ∀ {text}, splitBehind? token text = none →
      insertedBehind token inserted text = text := by
    intro text missed
    rw [insertedBehind, missed]
  intro text other same
  cases split : splitBehind? token text with
  | none =>
      cases otherSplit : splitBehind? token other with
      | none => rwa [untouched split, untouched otherSplit] at same
      | some parts =>
          have found := (refound otherSplit).1
          rw [← same, untouched split, split] at found
          cases found
  | some parts =>
      cases otherSplit : splitBehind? token other with
      | none =>
          have found := (refound split).1
          rw [same, untouched otherSplit, otherSplit] at found
          cases found
      | some otherParts =>
          obtain ⟨found, text_eq⟩ := refound split
          obtain ⟨otherFound, other_eq⟩ := refound otherSplit
          rw [same, otherFound] at found
          obtain ⟨before_eq, after_eq⟩ := Prod.mk.inj (Option.some.inj found)
          rw [text_eq, other_eq, before_eq, List.append_cancel_left after_eq]

/-- A word that an insertion does not tear apart still occurs: the token ends with a character that
the word does not have. -/
theorem occursIn_insertedBehind (start : List Char) {word inserted text : List Char} {last : Char}
    (apart : last.toLower ∉ word.map Char.toLower) (occurs : occursIn word text) :
    occursIn word (insertedBehind (start ++ [last]) inserted text) := by
  rw [insertedBehind]
  split
  · rename_i before after split
    obtain ⟨head, found, before_eq, text_eq, same, -⟩ := splitBehind?_eq_some split
    rw [← List.append_assoc, ← before_eq] at text_eq
    obtain ⟨first, hit, second, parts_eq, hit_eq⟩ := occursIn_iff.mp occurs
    have ends : (before.map Char.toLower).getLast? = some last.toLower := by
      rw [before_eq, List.map_append, same]
      simp
    rw [text_eq, List.append_eq_append_iff] at parts_eq
    refine occursIn_iff.mpr ?_
    rcases parts_eq with ⟨between, rfl, rfl⟩ | ⟨torn, before_torn, hit_second⟩
    · exact ⟨before ++ (inserted ++ between), hit, second, by simp, hit_eq⟩
    · rcases List.append_eq_append_iff.mp hit_second with ⟨between, rfl, rfl⟩ | ⟨rest, rfl, rfl⟩
      · exact ⟨first, hit, between ++ (inserted ++ after), by simp [before_torn], hit_eq⟩
      · rcases List.eq_nil_or_concat torn with rfl | ⟨body, final, rfl⟩
        · exact ⟨before ++ inserted, rest, second, by simp, hit_eq⟩
        · -- the last character of the token is in the word
          have final_eq : final.toLower = last.toLower := by simpa [before_torn] using ends
          refine absurd ?_ apart
          rw [← hit_eq, ← final_eq]
          simp
  · exact occurs

/-- An insertion of separators does not make a word either. -/
theorem occursIn_insertedBehind_separators (start : List Char) {word inserted : List Char}
    {last : Char} (apart : Separates last word) (nonempty : word ≠ []) (some : inserted ≠ [])
    (separate : ∀ char ∈ inserted, Separates char word) (text : List Char) :
    occursIn word (insertedBehind (start ++ [last]) inserted text) = occursIn word text := by
  apply Bool.eq_iff_iff.mpr
  refine ⟨fun occurs => ?_, occursIn_insertedBehind start apart⟩
  rw [insertedBehind] at occurs
  split at occurs
  · rename_i before after split
    obtain ⟨head, found, rfl, rfl, -, -⟩ := splitBehind?_eq_some split
    rw [occursIn_append_separators nonempty some separate, Bool.or_eq_true] at occurs
    rw [← List.append_assoc]
    rcases occurs with occurs | occurs
    · exact occursIn_append_left occurs _
    · exact occursIn_append_right occurs _
  · exact occurs

end Text

/-! ## Numbers of rows -/

namespace Writer

/-- A text with a number of rows to leave out in its first limit. -/
def patchedText (text : List Char) (count : Int) : List Char :=
  Text.insertedBehind limitToken.toList (toString count ++ ", ").toList text

theorem patchSkip_eq (writer : Writer) (count : Int) :
    ∃ output trail, writer.patchSkip count = { writer with output, trail } ∧
      output.text.toList = patchedText writer.output.text.toList count := by
  unfold patchSkip patchedText Text.insertedBehind insertBehind? Output.insertBehind?
  cases Text.splitBehind? limitToken.toList writer.output.text.toList with
  | none => exact ⟨writer.output, writer.trail, rfl, rfl⟩
  | some parts => exact ⟨_, _, rfl, by simp⟩

/-- Only the text and its spans change. -/
theorem foldl_patchSkip_eq (counts : List Int) (writer : Writer) :
    ∃ output trail, counts.foldl patchSkip writer = { writer with output, trail } ∧
      output.text.toList = counts.foldl patchedText writer.output.text.toList := by
  induction counts generalizing writer with
  | nil => exact ⟨writer.output, writer.trail, rfl, rfl⟩
  | cons count counts ih =>
      obtain ⟨output, trail, first_eq, text_eq⟩ := patchSkip_eq writer count
      obtain ⟨lastOutput, lastTrail, rest_eq, texts_eq⟩ := ih (writer.patchSkip count)
      refine ⟨lastOutput, lastTrail, ?_, ?_⟩
      · rw [List.foldl_cons, rest_eq, first_eq]
      · rw [List.foldl_cons, texts_eq, ← text_eq, first_eq]

theorem foldl_patchedText_injective (counts : List Int) :
    Function.Injective fun text => counts.foldl patchedText text := by
  induction counts with
  | nil => exact Function.injective_id
  | cons count counts ih => exact ih.comp (Text.insertedBehind_injective _ _)

theorem isDigit_of_mem_toString {count : Int} {char : Char}
    (member : char ∈ (toString count).toList) : char = '-' ∨ char.isDigit := by
  rw [Int.toString_eq_repr] at member
  cases count with
  | ofNat number =>
      rw [Int.repr, Nat.toList_repr] at member
      exact .inr (Nat.isDigit_of_mem_toDigits (by decide) (by decide) member)
  | negSucc number =>
      rw [Int.repr, String.toList_append, Nat.toList_repr, List.mem_append] at member
      rcases member with sign | member
      · exact .inl (List.mem_singleton.mp sign)
      · exact .inr (Nat.isDigit_of_mem_toDigits (by decide) (by decide) member)

theorem isAlpha_of_mem_toString {count : Int} {char : Char}
    (member : char ∈ (toString count).toList) : char.isAlpha = false := by
  rcases isDigit_of_mem_toString member with rfl | digit
  · rfl
  · exact Text.isAlpha_eq_false_of_isDigit digit

/-- A number of rows in the limit makes no return. -/
theorem occursIn_patchedText (text : List Char) (count : Int) :
    Text.occursIn "return".toList (patchedText text count) =
      Text.occursIn "return".toList text := by
  refine Text.occursIn_insertedBehind_separators "LIMIT".toList (by decide) (by decide) (by simp)
    ?_ text
  intro char member
  rw [String.toList_append, List.mem_append] at member
  refine Text.separates_of_isAlpha_eq_false ?_ (by decide)
  rcases member with number | comma
  · exact isAlpha_of_mem_toString number
  · have separators : ", ".toList.all (!·.isAlpha) := by decide
    simpa using List.all_eq_true.mp separators char comma

theorem occursIn_foldl_patchedText (counts : List Int) (text : List Char) :
    Text.occursIn "return".toList (counts.foldl patchedText text) =
      Text.occursIn "return".toList text := by
  induction counts generalizing text with
  | nil => rfl
  | cons count counts ih => rw [List.foldl_cons, ih, occursIn_patchedText]

/-- The query of a writer: the rows to leave out change neither what is iterated over nor whether
something is returned. -/
theorem finish_eq (writer : Writer) :
    ∃ spans, writer.finish =
      { text := writer.header ++
          .ofList (writer.skips.foldl patchedText writer.output.text.toList) ++ writer.footer
        binds := writer.binds.entries
        spans
        gaps := writer.gaps
        projectionType := writer.facts.projectionType } := by
  obtain ⟨output, trail, patched_eq, text_eq⟩ := foldl_patchSkip_eq writer.skips writer
  have contains_eq : output.contains "return" = writer.output.contains "return" := by
    rw [Output.contains, text_eq, occursIn_foldl_patchedText]
    rfl
  have footer_eq : footer { writer with output, trail } = writer.footer := by
    simp only [footer, contains_eq]
    rfl
  refine ⟨(trail.shiftAll writer.header.utf8ByteSize).spans, ?_⟩
  rw [finish, patchSkips, patched_eq]
  simp only [footer_eq, ← text_eq, String.ofList_toList]
  rfl

theorem finish_text (writer : Writer) :
    writer.finish.text = writer.header ++
      .ofList (writer.skips.foldl patchedText writer.output.text.toList) ++ writer.footer := by
  obtain ⟨spans, finish_eq⟩ := writer.finish_eq
  rw [finish_eq]

/-- The query tells the body, among those that return something from the same rows. -/
theorem output_text_of_finish {writer other : Writer} (skips_eq : writer.skips = other.skips)
    (header_eq : writer.header = other.header) (returns : writer.output.contains "return")
    (otherReturns : other.output.contains "return")
    (same : writer.finish.text = other.finish.text) : writer.output.text = other.output.text := by
  have footer_eq : writer.footer = other.footer := by
    rw [footer, footer, if_pos returns, if_pos otherReturns]
  rw [finish_text, finish_text, footer_eq, String.append_left_inj, header_eq,
    String.append_right_inj, String.ofList_inj, skips_eq] at same
  exact String.toList_inj.mp (foldl_patchedText_injective other.skips same)

end Writer

end AqlPipeline
