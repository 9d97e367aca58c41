import AqlPipeline.Proofs.Text.Cut
import AqlPipeline.Text.Blank
import Mathlib.Data.List.DropRight

/-!
# Texts that differ in white space

Spaces at the end of a text may be replaced by at least as many blanks before more is written.  If
what has been written since is then cut off again at the size of the text before, the two still
differ in white space only.
-/

namespace AqlPipeline.Text

/-- The characters that are not white space. -/
def withoutBlanks (chars : List Char) : List Char :=
  chars.filter fun char => !isBlank char

theorem withoutBlanks_append (first second : List Char) :
    withoutBlanks (first ++ second) = withoutBlanks first ++ withoutBlanks second :=
  List.filter_append first second

theorem withoutBlanks_eq_nil {chars : List Char} (blank : ∀ char ∈ chars, isBlank char) :
    withoutBlanks chars = [] := by
  apply List.filter_eq_nil_iff.mpr
  intro char member
  simp [blank char member]

/-- Dropping blanks at the end changes white space only. -/
theorem withoutBlanks_dropRightWhile {test : Char → Bool} (chars : List Char)
    (blank : ∀ char, test char → isBlank char) :
    withoutBlanks (dropRightWhile test chars) = withoutBlanks chars := by
  have dropped : withoutBlanks (chars.rtakeWhile test) = [] :=
    withoutBlanks_eq_nil fun char member => blank char (List.mem_rtakeWhile_imp member)
  have parts : dropRightWhile test chars ++ chars.rtakeWhile test = chars :=
    List.rdropWhile_append_rtakeWhile ..
  conv_rhs => rw [← parts, withoutBlanks_append, dropped, List.append_nil]

/-! ## Spaces at the end -/

/-- The number of spaces at the end. -/
def trailingSpaces (chars : List Char) : Nat :=
  (chars.rtakeWhile (· == ' ')).length

theorem eq_space_of_mem {chars : List Char} {char : Char}
    (member : char ∈ chars.rtakeWhile (· == ' ')) : char = ' ' := by
  simpa using List.mem_rtakeWhile_imp member

/-- Something other than a space stands between the spaces at the end and what was there before. -/
theorem trailingSpaces_append {chars : List Char} (front : List Char)
    (solid : ∃ char ∈ chars, char ≠ ' ') :
    trailingSpaces (front ++ chars) = trailingSpaces chars := by
  obtain ⟨char, member, other⟩ := solid
  unfold trailingSpaces List.rtakeWhile
  rw [List.reverse_append, List.takeWhile_append, if_neg]
  intro all
  have spaces := List.takeWhile_eq_self_iff.mp
    ((List.takeWhile_prefix _).eq_of_length all) char (List.mem_reverse.mpr member)
  exact other (beq_iff_eq.mp spaces)

theorem trailingSpaces_replicate (count : Nat) :
    trailingSpaces ('\n' :: List.replicate count ' ') = count := by
  have spaces : ∀ char ∈ List.replicate count ' ', (char == ' ') = true := by
    intro char member
    rw [List.eq_of_mem_replicate member]
    rfl
  unfold trailingSpaces List.rtakeWhile
  rw [List.reverse_cons, List.reverse_replicate, List.takeWhile_append_of_pos spaces]
  simp

theorem trailingSpaces_eq_zero {chars : List Char} (spaceless : ' ' ∉ chars) :
    trailingSpaces chars = 0 := by
  have none : chars.rtakeWhile (· == ' ') = [] := by
    apply List.eq_nil_iff_forall_not_mem.mpr
    intro char member
    exact spaceless (eq_space_of_mem member ▸ (List.rtakeWhile_suffix _ _).subset member)
  rw [trailingSpaces, none, List.length_nil]

/-! ## Reshaped ends -/

theorem byteSize_eq_length {chars : List Char} (blank : ∀ char ∈ chars, char = ' ' ∨ char = '\n') :
    byteSize chars = chars.length := by
  induction chars with
  | nil => rfl
  | cons char chars ih =>
      obtain ⟨own, others⟩ := List.forall_mem_cons.mp blank
      have single : char.utf8Size = 1 := by
        rcases own with rfl | rfl <;> rfl
      rw [byteSize, ih others, single, List.length_cons, Nat.add_comm]

theorem isBlank_of_mem {chars : List Char} (blank : ∀ char ∈ chars, char = ' ' ∨ char = '\n') :
    ∀ char ∈ chars, isBlank char := by
  intro char member
  rcases blank char member with rfl | rfl <;> rfl

/-- Whether the spaces at the end of a text have been replaced by at least as many blanks, and more
has been written. -/
def Reshaped (before after : List Char) : Prop :=
  ∃ kept spaces blanks rest, before = kept ++ spaces ∧ after = kept ++ (blanks ++ rest) ∧
    (∀ char ∈ spaces, char = ' ') ∧ (∀ char ∈ blanks, char = ' ' ∨ char = '\n') ∧
    spaces.length ≤ blanks.length

namespace Reshaped

theorem append (before more : List Char) : Reshaped before (before ++ more) :=
  ⟨before, [], [], more, by simp, by simp, by simp, by simp, Nat.le_refl 0⟩

theorem refl (chars : List Char) : Reshaped chars chars := by
  simpa using append chars []

theorem trans {first second third : List Char} (earlier : Reshaped first second)
    (later : Reshaped second third) : Reshaped first third := by
  obtain ⟨kept, spaces, blanks, rest, rfl, rfl, allSpaces, allBlanks, enough⟩ := earlier
  obtain ⟨kept', spaces', blanks', rest', second_eq, rfl, allSpaces', allBlanks', enough'⟩ := later
  rw [← List.append_assoc] at second_eq
  rcases List.append_eq_append_iff.mp second_eq with ⟨between, rfl, -⟩ | ⟨cut, blanks_cut, rfl⟩
  · -- the first change is left alone
    exact ⟨kept, spaces, blanks, between ++ (blanks' ++ rest'), rfl, by simp, allSpaces, allBlanks,
      enough⟩
  · rcases List.append_eq_append_iff.mp blanks_cut with ⟨inside, rfl, rfl⟩ | ⟨more, rfl, rfl⟩
    · -- some of the blanks are replaced again
      refine ⟨kept, spaces, inside ++ blanks', rest', rfl, by simp, allSpaces, ?_, ?_⟩
      · intro char member
        rcases List.mem_append.mp member with earlier | later
        · exact allBlanks char (List.mem_append_left cut earlier)
        · exact allBlanks' char later
      · simp only [List.length_append] at enough enough' ⊢
        omega
    · -- all of the blanks are replaced, and spaces in front of them
      refine ⟨kept', more ++ spaces, blanks', rest', by simp, rfl, ?_, allBlanks', ?_⟩
      · intro char member
        rcases List.mem_append.mp member with earlier | later
        · exact allSpaces' char (by simp [earlier])
        · exact allSpaces char later
      · simp only [List.length_append] at enough enough' ⊢
        omega

/-- Cut off at the size of the text before, the text differs from it in white space only. -/
theorem cut {before after : List Char} (reshaped : Reshaped before after) :
    ∃ start more, after = start ++ more ∧ byteSize start = byteSize before ∧
      withoutBlanks start = withoutBlanks before ∧ ∀ other, Reshaped before (start ++ other) := by
  obtain ⟨kept, spaces, blanks, rest, rfl, rfl, allSpaces, allBlanks, enough⟩ := reshaped
  let front := blanks.take spaces.length
  have spaceBlanks : ∀ char ∈ spaces, char = ' ' ∨ char = '\n' := fun char member =>
    .inl (allSpaces char member)
  have frontBlanks : ∀ char ∈ front, char = ' ' ∨ char = '\n' := fun char member =>
    allBlanks char (List.mem_of_mem_take member)
  have front_length : front.length = spaces.length := List.length_take_of_le enough
  refine ⟨kept ++ front, blanks.drop spaces.length ++ rest, ?_, ?_, ?_, fun other => ?_⟩
  · rw [List.append_assoc, ← List.append_assoc front, List.take_append_drop]
  · rw [byteSize_append, byteSize_append, byteSize_eq_length frontBlanks,
      byteSize_eq_length spaceBlanks, front_length]
  · rw [withoutBlanks_append, withoutBlanks_append,
      withoutBlanks_eq_nil (isBlank_of_mem frontBlanks),
      withoutBlanks_eq_nil (isBlank_of_mem spaceBlanks)]
  · exact ⟨kept, spaces, front, other, rfl, by simp, allSpaces, frontBlanks,
      Nat.le_of_eq front_length.symm⟩

theorem byteSize_le {before after : List Char} (reshaped : Reshaped before after) :
    byteSize before ≤ byteSize after := by
  obtain ⟨start, more, rfl, size_eq, -⟩ := reshaped.cut
  rw [byteSize_append, size_eq]
  exact Nat.le_add_right _ _

end Reshaped

end AqlPipeline.Text
