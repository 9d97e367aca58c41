import AqlPipeline.Text.Caseless
import AqlPipeline.Text.Utf8

/-!
# Cutting a text between characters

An offset can be cut at when it is the size of a beginning of the text.  A slice is defined exactly
when both of its ends can be cut at, and the middle of any decomposition of the text is the slice at
its place.
-/

namespace AqlPipeline.Text

@[simp] theorem byteSize_append (left right : List Char) :
    byteSize (left ++ right) = byteSize left + byteSize right := by
  induction left with
  | nil => simp [byteSize]
  | cons char chars ih => simp [byteSize, ih, Nat.add_assoc]

theorem utf8ByteSize_eq (text : String) : text.utf8ByteSize = byteSize text.toList := by
  have sized : ∀ chars, (String.ofList chars).utf8ByteSize = byteSize chars := by
    intro chars
    induction chars with
    | nil => rfl
    | cons char chars ih =>
        rw [String.ofList_cons, String.utf8ByteSize_append, String.utf8ByteSize_singleton, ih]
        rfl
  simpa using sized text.toList

/-! ## Splitting -/

theorem splitBytes?_append (before after : List Char) :
    splitBytes? (byteSize before) (before ++ after) = some (before, after) := by
  induction before with
  | nil => simp [byteSize, splitBytes?]
  | cons char before ih =>
      obtain ⟨count, size_eq⟩ : ∃ count, byteSize (char :: before) = count + 1 := by
        have positive := char.utf8Size_pos
        exact ⟨byteSize (char :: before) - 1, by simp only [byteSize]; omega⟩
      have fits : char.utf8Size ≤ count + 1 := by
        rw [← size_eq, byteSize]
        omega
      have remaining : count + 1 - char.utf8Size = byteSize before := by
        rw [← size_eq, byteSize]
        omega
      rw [size_eq, List.cons_append, splitBytes?, if_pos fits, remaining, ih]
      rfl

theorem eq_append_of_splitBytes? {count : Nat} {chars before after : List Char}
    (split : splitBytes? count chars = some (before, after)) :
    chars = before ++ after ∧ byteSize before = count := by
  induction chars generalizing count before with
  | nil =>
      cases count with
      | zero =>
          simp only [splitBytes?, Option.some.injEq, Prod.mk.injEq] at split
          obtain ⟨rfl, rfl⟩ := split
          exact ⟨rfl, rfl⟩
      | succ count => simp [splitBytes?] at split
  | cons char chars ih =>
      cases count with
      | zero =>
          simp only [splitBytes?, Option.some.injEq, Prod.mk.injEq] at split
          obtain ⟨rfl, rfl⟩ := split
          exact ⟨rfl, rfl⟩
      | succ count =>
          rw [splitBytes?] at split
          split at split
          · rename_i fits
            obtain ⟨⟨start, rest⟩, inner, pair_eq⟩ := Option.map_eq_some_iff.mp split
            obtain ⟨rfl, rfl⟩ := Prod.mk.inj pair_eq
            obtain ⟨rfl, size_eq⟩ := ih inner
            refine ⟨rfl, ?_⟩
            rw [byteSize, size_eq]
            omega
          · simp at split

theorem eq_append_of_splitBefore? {token text before after : List Char}
    (split : splitBefore? token text = some (before, after)) : text = before ++ after := by
  induction text generalizing before with
  | nil =>
      rw [splitBefore?] at split
      split at split
      · cases split
        rfl
      · cases split
  | cons char text ih =>
      rw [splitBefore?] at split
      split at split
      · cases split
        rfl
      · obtain ⟨⟨start, rest⟩, inner, pair_eq⟩ := Option.map_eq_some_iff.mp split
        cases pair_eq
        rw [ih inner, List.cons_append]

theorem eq_append_of_splitBehind? {token text before after : List Char}
    (split : splitBehind? token text = some (before, after)) : text = before ++ after := by
  obtain ⟨⟨start, rest⟩, found, pair_eq⟩ := Option.map_eq_some_iff.mp split
  cases pair_eq
  rw [eq_append_of_splitBefore? found, List.append_assoc, List.take_append_drop]

/-! ## Cuts and slices -/

/-- Whether a text can be cut at an offset: a character ends there. -/
def CutAt (text : String) (offset : Nat) : Prop :=
  ∃ before after, text = before ++ after ∧ before.utf8ByteSize = offset

theorem cutAt_size (text : String) : CutAt text text.utf8ByteSize :=
  ⟨text, "", by simp, rfl⟩

theorem CutAt.append {text : String} {offset : Nat} (cut : CutAt text offset) (more : String) :
    CutAt (text ++ more) offset := by
  obtain ⟨before, after, rfl, size_eq⟩ := cut
  exact ⟨before, after ++ more, String.append_assoc, size_eq⟩

theorem CutAt.le_size {text : String} {offset : Nat} (cut : CutAt text offset) :
    offset ≤ text.utf8ByteSize := by
  obtain ⟨before, after, rfl, rfl⟩ := cut
  simp

/-- A slice is the middle part of a decomposition of the text. -/
theorem slice?_eq_some_iff {text part : String} {offset length : Nat} :
    slice? text offset length = some part ↔
      ∃ before after, text = before ++ part ++ after ∧
        before.utf8ByteSize = offset ∧ part.utf8ByteSize = length := by
  constructor
  · intro sliced
    simp only [slice?, Option.bind_eq_bind, Option.bind_eq_some_iff, Prod.exists,
      Option.pure_def, Option.some.injEq] at sliced
    obtain ⟨before, rest, outer, chars, after, inner, rfl⟩ := sliced
    obtain ⟨text_eq, offset_eq⟩ := eq_append_of_splitBytes? outer
    obtain ⟨rfl, length_eq⟩ := eq_append_of_splitBytes? inner
    refine ⟨String.ofList before, String.ofList after, ?_, ?_, ?_⟩
    · apply String.toList_inj.mp
      simp [text_eq]
    · simp [utf8ByteSize_eq, offset_eq]
    · simp [utf8ByteSize_eq, length_eq]
  · rintro ⟨before, after, rfl, rfl, rfl⟩
    have outer := splitBytes?_append before.toList (part.toList ++ after.toList)
    have inner := splitBytes?_append part.toList after.toList
    simp [slice?, utf8ByteSize_eq, outer, inner]

theorem slice?_append {text part : String} {offset length : Nat}
    (sliced : slice? text offset length = some part) (more : String) :
    slice? (text ++ more) offset length = some part := by
  obtain ⟨before, after, rfl, offset_eq, length_eq⟩ := slice?_eq_some_iff.mp sliced
  exact slice?_eq_some_iff.mpr
    ⟨before, after ++ more, by simp [String.append_assoc], offset_eq, length_eq⟩

/-- Two decompositions of a text: the shorter beginning begins the longer one. -/
theorem append_eq_append_of_le {left right before after : String}
    (text_eq : left ++ right = before ++ after) (le : left.utf8ByteSize ≤ before.utf8ByteSize) :
    ∃ middle, before = left ++ middle ∧ right = middle ++ after := by
  have chars_eq : left.toList ++ right.toList = before.toList ++ after.toList := by
    simpa using congrArg String.toList text_eq
  rcases List.append_eq_append_iff.mp chars_eq with ⟨middle, before_eq, right_eq⟩ | shorter
  · refine ⟨String.ofList middle, ?_, ?_⟩ <;> apply String.toList_inj.mp
    · simpa using before_eq
    · simpa using right_eq
  · obtain ⟨middle, left_eq, after_eq⟩ := shorter
    have empty : middle = [] := by
      rw [utf8ByteSize_eq, utf8ByteSize_eq, left_eq, byteSize_append] at le
      cases middle with
      | nil => rfl
      | cons char chars =>
          have positive := char.utf8Size_pos
          simp only [byteSize] at le
          omega
    rw [empty, List.append_nil] at left_eq
    rw [empty, List.nil_append] at after_eq
    refine ⟨"", ?_, ?_⟩ <;> apply String.toList_inj.mp
    · simpa using left_eq.symm
    · simpa using after_eq.symm

theorem CutAt.of_append {text more : String} {offset : Nat} (cut : CutAt (text ++ more) offset)
    (le : offset ≤ text.utf8ByteSize) : CutAt text offset := by
  obtain ⟨before, after, text_eq, rfl⟩ := cut
  obtain ⟨middle, text_split, -⟩ := append_eq_append_of_le text_eq.symm le
  exact ⟨before, middle, text_split, rfl⟩

/-- A slice of a beginning of the text is a slice of that beginning. -/
theorem slice?_of_append {text more part : String} {offset length : Nat}
    (sliced : slice? (text ++ more) offset length = some part)
    (le : offset + length ≤ text.utf8ByteSize) : slice? text offset length = some part := by
  obtain ⟨before, after, text_eq, rfl, rfl⟩ := slice?_eq_some_iff.mp sliced
  obtain ⟨middle, text_split, -⟩ := append_eq_append_of_le text_eq.symm (by simpa using le)
  exact slice?_eq_some_iff.mpr ⟨before, middle, text_split, rfl, rfl⟩

/-- What has been added to a text is the slice behind its old end. -/
theorem slice?_behind (text more : String) :
    slice? (text ++ more) text.utf8ByteSize more.utf8ByteSize = some more :=
  slice?_eq_some_iff.mpr ⟨text, "", by simp, rfl, rfl⟩

/-! ## Slices and insertions -/

section Insertion

variable {before inserted after part : String} {offset length : Nat}

theorem slice?_insert_front
    (sliced : slice? (before ++ after) offset length = some part)
    (front : before.utf8ByteSize ≤ offset) :
    slice? (before ++ inserted ++ after) (offset + inserted.utf8ByteSize) length = some part := by
  obtain ⟨start, rest, text_eq, rfl, rfl⟩ := slice?_eq_some_iff.mp sliced
  rw [String.append_assoc] at text_eq
  obtain ⟨middle, rfl, rfl⟩ := append_eq_append_of_le text_eq front
  refine slice?_eq_some_iff.mpr ⟨before ++ inserted ++ middle, rest, ?_, ?_, rfl⟩
  · simp only [String.append_assoc]
  · simp only [String.utf8ByteSize_append]
    omega

/-- A slice around the place of an insertion takes the new text in at that place. -/
theorem slice?_insert_around
    (sliced : slice? (before ++ after) offset length = some part)
    (starts : offset ≤ before.utf8ByteSize) (ends : before.utf8ByteSize ≤ offset + length) :
    ∃ front back, part = front ++ back ∧ offset + front.utf8ByteSize = before.utf8ByteSize ∧
      slice? (before ++ inserted ++ after) offset (length + inserted.utf8ByteSize) =
        some (front ++ inserted ++ back) := by
  obtain ⟨start, rest, text_eq, rfl, rfl⟩ := slice?_eq_some_iff.mp sliced
  rw [String.append_assoc] at text_eq
  obtain ⟨front, rfl, part_eq⟩ := append_eq_append_of_le text_eq.symm starts
  rw [String.utf8ByteSize_append] at ends
  obtain ⟨back, rfl, rfl⟩ := append_eq_append_of_le part_eq.symm (by omega)
  refine ⟨front, back, rfl, by simp, slice?_eq_some_iff.mpr ⟨start, rest, ?_, rfl, ?_⟩⟩
  · simp only [String.append_assoc]
  · simp only [String.utf8ByteSize_append]
    omega

theorem slice?_insert_behind
    (sliced : slice? (before ++ after) offset length = some part)
    (behind : offset + length ≤ before.utf8ByteSize) :
    slice? (before ++ inserted ++ after) offset length = some part := by
  rw [String.append_assoc]
  exact slice?_append (slice?_of_append sliced behind) _

end Insertion

end AqlPipeline.Text
