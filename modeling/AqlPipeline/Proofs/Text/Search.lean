import AqlPipeline.Output

/-!
# What a search finds

A token occurs in a text when some part of the text is the token up to case.
-/

namespace AqlPipeline.Text

theorem beginsWith_iff {token text : List Char} :
    beginsWith token text ↔
      ∃ found after, text = found ++ after ∧ found.map Char.toLower = token.map Char.toLower := by
  induction token generalizing text with
  | nil =>
      refine ⟨fun _ => ⟨[], text, rfl, rfl⟩, fun _ => ?_⟩
      cases text <;> rfl
  | cons wanted token ih =>
      cases text with
      | nil =>
          constructor
          · intro begins
            cases begins
          · rintro ⟨found, after, text_eq, same⟩
            rw [(List.append_eq_nil_iff.mp text_eq.symm).1] at same
            cases same
      | cons char text =>
          simp only [beginsWith, Bool.and_eq_true, beq_iff_eq, ih]
          constructor
          · rintro ⟨same_head, found, after, rfl, same⟩
            exact ⟨char :: found, after, rfl, by simp [same_head, same]⟩
          · rintro ⟨found, after, text_eq, same⟩
            cases found with
            | nil => cases same
            | cons first found =>
                obtain ⟨rfl, rfl⟩ := List.cons.inj text_eq
                obtain ⟨same_head, same_tail⟩ := List.cons.inj same
                exact ⟨same_head.symm, found, after, rfl, same_tail⟩

theorem occursIn_nil {token : List Char} : occursIn token [] = beginsWith token [] := by
  rw [occursIn, splitBefore?]
  split <;> simp_all

theorem occursIn_cons {token text : List Char} {char : Char} :
    occursIn token (char :: text) = (beginsWith token (char :: text) || occursIn token text) := by
  rw [occursIn, splitBefore?]
  split <;> simp_all [occursIn]

theorem occursIn_iff {token text : List Char} :
    occursIn token text ↔ ∃ before found after, text = before ++ (found ++ after) ∧
      found.map Char.toLower = token.map Char.toLower := by
  induction text with
  | nil =>
      rw [occursIn_nil, beginsWith_iff]
      constructor
      · rintro ⟨found, after, text_eq, same⟩
        exact ⟨[], found, after, text_eq, same⟩
      · rintro ⟨before, found, after, text_eq, same⟩
        exact ⟨found, after, (List.append_eq_nil_iff.mp text_eq.symm).2.symm, same⟩
  | cons char text ih =>
      rw [occursIn_cons, Bool.or_eq_true, beginsWith_iff, ih]
      constructor
      · rintro (⟨found, after, text_eq, same⟩ | ⟨before, found, after, rfl, same⟩)
        · exact ⟨[], found, after, text_eq, same⟩
        · exact ⟨char :: before, found, after, rfl, same⟩
      · rintro ⟨before, found, after, text_eq, same⟩
        cases before with
        | nil => exact .inl ⟨found, after, text_eq, same⟩
        | cons first before =>
            obtain ⟨rfl, rfl⟩ := List.cons.inj text_eq
            exact .inr ⟨before, found, after, rfl, same⟩

theorem occursIn_append_left {token text : List Char} (occurs : occursIn token text)
    (more : List Char) : occursIn token (text ++ more) := by
  obtain ⟨before, found, after, rfl, same⟩ := occursIn_iff.mp occurs
  exact occursIn_iff.mpr ⟨before, found, after ++ more, by simp, same⟩

theorem occursIn_append_right {token text : List Char} (occurs : occursIn token text)
    (more : List Char) : occursIn token (more ++ text) := by
  obtain ⟨before, found, after, rfl, same⟩ := occursIn_iff.mp occurs
  exact occursIn_iff.mpr ⟨more ++ before, found, after, by simp, same⟩

/-- Whether some part of a text is a word up to ASCII case. -/
def Mentions (text word : String) : Prop :=
  ∃ before found after : String, text = before ++ (found ++ after) ∧ sameUpToCase found word

theorem Mentions.append {text word : String} (mentions : Mentions text word) (more : String) :
    Mentions (text ++ more) word := by
  obtain ⟨before, found, after, rfl, same⟩ := mentions
  exact ⟨before, found, after ++ more, by simp only [String.append_assoc], same⟩

theorem occursIn_iff_mentions (text word : String) :
    occursIn word.toList text.toList ↔ Mentions text word := by
  rw [occursIn_iff]
  constructor
  · rintro ⟨before, found, after, text_eq, same⟩
    refine ⟨.ofList before, .ofList found, .ofList after, ?_, by simp [sameUpToCase, same]⟩
    apply String.toList_inj.mp
    simp [text_eq]
  · rintro ⟨before, found, after, text_eq, same⟩
    refine ⟨before.toList, found.toList, after.toList, by simp [text_eq], ?_⟩
    simpa [sameUpToCase] using same

theorem contains_iff_mentions (output : Output) (word : String) :
    output.contains word ↔ Mentions output.text word :=
  occursIn_iff_mentions output.text word

end AqlPipeline.Text
