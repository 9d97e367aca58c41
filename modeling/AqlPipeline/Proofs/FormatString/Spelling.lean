import AqlPipeline.Proofs.FormatString.Brackets
import AqlPipeline.Render.Call
import Mathlib.Data.List.TakeWhile

/-!
# How format strings are spelled

The rules of spelling, told from the segments: which texts spell a number, an alignment, an item and
a list of segments.  A segment may be spelled in many ways, as blanks, plus signs and zeros in front
of a number do not count.  Items are read just when they are spelled so.
-/

namespace AqlPipeline.FormatString

open Text (isBlank trim)

/-! ## Rules -/

/-- Whether characters spell a number: digits, perhaps with a plus sign in front. -/
def SpellsNumber (number : Nat) (chars : List Char) : Prop :=
  ∃ digits, (chars = digits ∨ chars = '+' :: digits) ∧ digits ≠ [] ∧
    (∀ digit ∈ digits, digit.isDigit) ∧ Nat.ofDigitChars 10 digits 0 = number

/-- Whether characters are an alignment: a number below `2 ^ 32`, perhaps with a minus sign in
front. -/
def IsAlignment (chars : List Char) : Prop :=
  ∃ unsigned number, (chars = unsigned ∨ chars = '-' :: unsigned) ∧
    SpellsNumber number unsigned ∧ number < UInt32.size

/-- Whether characters are others, perhaps with blanks around them. -/
def Padded (inner chars : List Char) : Prop :=
  ∃ before after, chars = before ++ (inner ++ after) ∧ (∀ char ∈ before, isBlank char) ∧
    ∀ char ∈ after, isBlank char

/-- Whether characters are the alignment of an item, with the comma in front of it. -/
def SpellsAlignment : Option String → List Char → Prop
  | none, chars => chars = []
  | some alignment, chars =>
    IsAlignment alignment.toList ∧
      ∃ padded, chars = ',' :: padded ∧ Padded alignment.toList padded

/-- Whether characters are the format of an item, with the colon in front of it. -/
def SpellsFormat : Option String → List Char → Prop
  | none, chars => chars = []
  | some format, chars => '\x7d' ∉ format.toList ∧ chars = ':' :: format.toList

/-- Whether characters are an item up to its format: the number of the argument, which is below
`2 ^ 64` and may have blanks around it, and the alignment. -/
def Placeholder.SpellsFront (placeholder : Placeholder) (front : List Char) : Prop :=
  ∃ number index alignment, front = index ++ alignment ∧
    SpellsNumber placeholder.index number ∧ placeholder.index < UInt64.size ∧ Padded number index ∧
    SpellsAlignment placeholder.alignment alignment

/-- Whether characters are an item without its braces. -/
def Placeholder.Spells (placeholder : Placeholder) (item : List Char) : Prop :=
  ∃ front format, item = front ++ format ∧ placeholder.SpellsFront front ∧
    SpellsFormat placeholder.format format

/-- Whether characters are the item of a segment, if it has one, in its braces. -/
def SpellsItem : Option Placeholder → List Char → Prop
  | none, chars => chars = []
  | some placeholder, chars =>
    ∃ item, chars = '\x7b' :: (item ++ ['\x7d']) ∧ placeholder.Spells item

/-- Whether characters spell some segments: each literal with its braces doubled, and the item
behind it. -/
def Spells : List Segment → List Char → Prop
  | [], chars => chars = []
  | segment :: segments, chars =>
    ∃ item others, chars = (Render.doubledBraces segment.literal).toList ++ (item ++ others) ∧
      SpellsItem segment.placeholder item ∧ Spells segments others

/-! ## Blanks -/

/-- No digit and no sign is a blank. -/
theorem isDigit_eq_false_of_isBlank {char : Char} (blank : isBlank char) :
    char.isDigit = false ∧ char ≠ '+' ∧ char ≠ '-' := by
  have number : ¬ char.isDigit := by
    intro digit
    simp only [Char.isDigit, Bool.and_eq_true, decide_eq_true_eq, ge_iff_le,
      UInt32.le_iff_toNat_le] at digit
    have low : 48 ≤ char.toNat := digit.1
    have high : char.toNat ≤ 57 := digit.2
    simp only [isBlank, Bool.or_eq_true, Bool.and_eq_true, decide_eq_true_eq, beq_iff_eq] at blank
    omega
  refine ⟨Bool.not_eq_true _ ▸ number, ?_, ?_⟩
  · rintro rfl
    exact absurd blank (by decide)
  · rintro rfl
    exact absurd blank (by decide)

theorem padded_trim (chars : List Char) : Padded (trim chars) chars := by
  have tail : ∀ rest : List Char,
      rest = Text.dropRightWhile isBlank rest ++ (rest.reverse.takeWhile isBlank).reverse := by
    intro rest
    rw [Text.dropRightWhile, ← List.reverse_append, List.takeWhile_append_dropWhile,
      List.reverse_reverse]
  refine ⟨chars.takeWhile isBlank, ((chars.dropWhile isBlank).reverse.takeWhile isBlank).reverse,
    ?_, fun _ member => List.mem_takeWhile_imp member, fun _ member =>
      List.mem_takeWhile_imp (List.mem_reverse.mp member)⟩
  rw [trim, ← tail, List.takeWhile_append_dropWhile]

/-- Blanks around characters without any are trimmed off. -/
theorem Padded.trim_eq {inner chars : List Char} (padded : Padded inner chars)
    (solid : ∀ char ∈ inner, ¬ isBlank char) : trim chars = inner := by
  have unchanged : ∀ rest : List Char, (∀ char ∈ rest, ¬ isBlank char) →
      rest.dropWhile isBlank = rest := by
    intro rest none
    cases rest with
    | nil => rfl
    | cons char rest => exact List.dropWhile_cons_of_neg (none char List.mem_cons_self)
  obtain ⟨before, after, rfl, front, behind⟩ := padded
  rw [trim, List.dropWhile_append_of_pos front, Text.dropRightWhile]
  cases inner with
  | nil => simp [List.dropWhile_eq_nil_iff.mpr behind]
  | cons char inner =>
      rw [List.cons_append, List.dropWhile_cons_of_neg (solid char List.mem_cons_self),
        ← List.cons_append, List.reverse_append,
        List.dropWhile_append_of_pos fun char member => behind char (List.mem_reverse.mp member),
        unchanged _ fun char member => solid char (List.mem_reverse.mp member),
        List.reverse_reverse]

theorem Padded.not_mem {mark : Char} {inner chars : List Char} (padded : Padded inner chars)
    (solid : isBlank mark = false) (absent : mark ∉ inner) : mark ∉ chars := by
  obtain ⟨before, after, rfl, front, behind⟩ := padded
  have apart : ∀ blanks : List Char, (∀ char ∈ blanks, isBlank char) → mark ∉ blanks := by
    intro blanks all member
    rw [all mark member] at solid
    cases solid
  simp [absent, apart before front, apart after behind]

/-! ## Numbers -/

theorem digitsValue_eq (digits : List Char) :
    digitsValue digits = Nat.ofDigitChars 10 digits 0 := by
  unfold digitsValue Nat.ofDigitChars
  simp only [Nat.mul_comm]

theorem SpellsNumber.not_mem {mark : Char} {number : Nat} {chars : List Char}
    (spells : SpellsNumber number chars) (digit : mark.isDigit = false) (sign : mark ≠ '+') :
    mark ∉ chars := by
  obtain ⟨digits, shape, -, all, -⟩ := spells
  have absent : mark ∉ digits := by
    intro member
    rw [all mark member] at digit
    cases digit
  obtain rfl | rfl := shape
  · exact absent
  · simp [absent, sign]

/-- A number is read from its spellings, and from nothing else. -/
theorem unsigned?_eq_some_iff {limit number : Nat} {chars : List Char} :
    unsigned? limit chars = some number ↔ SpellsNumber number chars ∧ number < limit := by
  have digits_read : ∀ digits : List Char,
      (if !digits.isEmpty && digits.all isDigit && digitsValue digits < limit then
        some (digitsValue digits) else none) = some number ↔
      (digits ≠ [] ∧ (∀ digit ∈ digits, digit.isDigit) ∧
        Nat.ofDigitChars 10 digits 0 = number) ∧ number < limit := by
    intro digits
    rw [digitsValue_eq, Option.ite_none_right_eq_some]
    simp only [Bool.and_eq_true, Bool.not_eq_true', List.isEmpty_eq_false_iff, List.all_eq_true,
      decide_eq_true_eq, Option.some.injEq]
    constructor
    · rintro ⟨⟨⟨filled, all⟩, small⟩, rfl⟩
      exact ⟨⟨filled, all, rfl⟩, small⟩
    · rintro ⟨⟨filled, all, rfl⟩, small⟩
      exact ⟨⟨⟨filled, all⟩, small⟩, rfl⟩
  unfold unsigned?
  dsimp only
  rw [digits_read]
  refine and_congr_left fun _ => ?_
  split
  · rename_i digits
    constructor
    · exact fun read => ⟨digits, .inr rfl, read⟩
    · rintro ⟨others, shape | shape, filled, all, value⟩
      · -- A plus sign is no digit.
        subst shape
        exact absurd (all '+' List.mem_cons_self) (by decide)
      · cases shape
        exact ⟨filled, all, value⟩
  · rename_i unsigned
    constructor
    · exact fun read => ⟨chars, .inl rfl, read⟩
    · rintro ⟨digits, shape | shape, read⟩
      · exact shape ▸ read
      · exact absurd shape (unsigned digits)

theorem SpellsNumber.not_isBlank {number : Nat} {chars : List Char}
    (spells : SpellsNumber number chars) : ∀ char ∈ chars, ¬ isBlank char := by
  intro char member blank
  obtain ⟨digit, plus, -⟩ := isDigit_eq_false_of_isBlank blank
  exact spells.not_mem digit plus member

/-! ## Alignments -/

theorem IsAlignment.not_mem {mark : Char} {chars : List Char} (alignment : IsAlignment chars)
    (digit : mark.isDigit = false) (plus : mark ≠ '+') (minus : mark ≠ '-') : mark ∉ chars := by
  obtain ⟨unsigned, number, shape, spells, -⟩ := alignment
  have absent : mark ∉ unsigned := spells.not_mem digit plus
  obtain rfl | rfl := shape
  · exact absent
  · simp [absent, minus]

theorem IsAlignment.not_isBlank {chars : List Char} (alignment : IsAlignment chars) :
    ∀ char ∈ chars, ¬ isBlank char := by
  intro char member blank
  obtain ⟨digit, plus, minus⟩ := isDigit_eq_false_of_isBlank blank
  exact alignment.not_mem digit plus minus member

/-- An alignment is read from its spellings, and from nothing else. -/
theorem alignment?_eq_some_iff {chars : List Char} {alignment : String} :
    alignment? chars = some alignment ↔
      IsAlignment alignment.toList ∧ Padded alignment.toList chars := by
  have read_iff : alignment? chars = some alignment ↔
      IsAlignment (trim chars) ∧ String.ofList (trim chars) = alignment := by
    unfold alignment?
    dsimp only
    rw [Option.map_eq_some_iff, exists_and_right]
    refine and_congr_left fun _ => ?_
    simp only [unsigned?_eq_some_iff]
    generalize trim chars = trimmed
    split
    · rename_i unsigned
      constructor
      · rintro ⟨number, spells, small⟩
        exact ⟨unsigned, number, .inr rfl, spells, small⟩
      · rintro ⟨others, number, shape | shape, spells, small⟩
        · -- A minus sign is neither a digit nor a plus sign.
          have absent : '-' ∉ others := spells.not_mem (by decide) (by decide)
          subst shape
          exact absurd List.mem_cons_self absent
        · cases shape
          exact ⟨number, spells, small⟩
    · rename_i signless
      constructor
      · rintro ⟨number, spells, small⟩
        exact ⟨trimmed, number, .inl rfl, spells, small⟩
      · rintro ⟨unsigned, number, shape | shape, spells, small⟩
        · exact ⟨number, shape ▸ spells, small⟩
        · exact absurd shape (signless unsigned)
  rw [read_iff]
  constructor
  · rintro ⟨valid, rfl⟩
    rw [String.toList_ofList]
    exact ⟨valid, padded_trim chars⟩
  · rintro ⟨valid, padded⟩
    rw [padded.trim_eq valid.not_isBlank]
    exact ⟨valid, String.ofList_toList⟩

/-! ## Items -/

theorem splitOnce?_eq_some_iff {mark : Char} {chars before after : List Char} :
    splitOnce? mark chars = some (before, after) ↔
      mark ∉ before ∧ chars = before ++ mark :: after := by
  constructor
  · intro split
    refine ⟨?_, splitOnce?_eq_some split⟩
    induction chars generalizing before with
    | nil => cases split
    | cons char chars ih =>
        rw [splitOnce?] at split
        split at split
        · cases split
          exact List.not_mem_nil
        · rename_i other
          obtain ⟨⟨start, rest⟩, later, pair_eq⟩ := Option.map_eq_some_iff.mp split
          cases pair_eq
          simp [ih later, Ne.symm other]
  · rintro ⟨absent, rfl⟩
    induction before with
    | nil => simp [splitOnce?]
    | cons char before ih =>
        simp only [List.mem_cons, not_or] at absent
        obtain ⟨other, absent⟩ := absent
        rw [List.cons_append, splitOnce?, if_neg (Ne.symm other), ih absent]
        rfl

theorem splitOnce?_eq_none_iff {mark : Char} {chars : List Char} :
    splitOnce? mark chars = none ↔ mark ∉ chars := by
  induction chars with
  | nil => simp [splitOnce?]
  | cons char chars ih =>
      rw [splitOnce?]
      split
      · rename_i found
        simp [found]
      · rename_i other
        simp [ih, Ne.symm other]

theorem SpellsAlignment.not_mem {mark : Char} (special : mark ∈ [':', '\x7b', '\x7d'])
    {alignment : Option String} {chars : List Char} (spells : SpellsAlignment alignment chars) :
    mark ∉ chars := by
  simp only [List.mem_cons, List.not_mem_nil, or_false] at special
  cases alignment with
  | none =>
      subst spells
      exact List.not_mem_nil
  | some alignment =>
      obtain ⟨valid, padded, rfl, pads⟩ := spells
      obtain rfl | rfl | rfl := special <;>
        exact List.not_mem_cons_of_ne_of_not_mem (by decide)
          (pads.not_mem (by decide) (valid.not_mem (by decide) (by decide) (by decide)))

/-- The commas and colons of an item, and its braces, are not characters of its number. -/
theorem not_mem_index {mark : Char} (special : mark ∈ [',', ':', '\x7b', '\x7d']) {number : Nat}
    {chars index : List Char} (spells : SpellsNumber number chars) (pads : Padded chars index) :
    mark ∉ index := by
  simp only [List.mem_cons, List.not_mem_nil, or_false] at special
  obtain rfl | rfl | rfl | rfl := special <;>
    exact pads.not_mem (by decide) (spells.not_mem (by decide) (by decide))

theorem Placeholder.SpellsFront.not_mem {mark : Char} (special : mark ∈ [':', '\x7b', '\x7d'])
    {placeholder : Placeholder} {front : List Char} (spells : placeholder.SpellsFront front) :
    mark ∉ front := by
  obtain ⟨number, index, alignment, rfl, counts, -, pads, aligned⟩ := spells
  have inIndex : mark ∉ index := not_mem_index (List.mem_cons_of_mem _ special) counts pads
  simp [inIndex, aligned.not_mem special]

theorem Placeholder.SpellsFront.ne_nil {placeholder : Placeholder} {front : List Char}
    (spells : placeholder.SpellsFront front) : front ≠ [] := by
  obtain ⟨number, index, alignment, rfl, ⟨digits, shape, filled, -⟩, -, ⟨_, _, rfl, -⟩, -⟩ := spells
  obtain rfl | rfl := shape <;> simp [filled]

/-- An item ends where the first closing brace stands. -/
theorem Placeholder.Spells.not_mem {placeholder : Placeholder} {item : List Char}
    (spells : placeholder.Spells item) : '\x7d' ∉ item := by
  obtain ⟨front, format, rfl, fronts, formats⟩ := spells
  have inFront : '\x7d' ∉ front := fronts.not_mem (by decide)
  have inFormat : '\x7d' ∉ format := by
    cases stored : placeholder.format with
    | none =>
        rw [stored] at formats
        subst formats
        exact List.not_mem_nil
    | some text =>
        rw [stored] at formats
        obtain ⟨absent, rfl⟩ := formats
        exact List.not_mem_cons_of_ne_of_not_mem (by decide) absent
  simp [inFront, inFormat]

/-- An item does not begin with a brace, so the one in front of it is not doubled. -/
theorem Placeholder.Spells.eq_cons {placeholder : Placeholder} {item : List Char}
    (spells : placeholder.Spells item) : ∃ char rest, item = char :: rest ∧ char ≠ '\x7b' := by
  obtain ⟨front, format, rfl, fronts, -⟩ := spells
  have inFront : '\x7b' ∉ front := fronts.not_mem (by decide)
  cases front with
  | nil => exact absurd rfl fronts.ne_nil
  | cons char rest =>
      refine ⟨char, rest ++ format, rfl, ?_⟩
      rintro rfl
      exact inFront List.mem_cons_self

/-- Without a colon an item is read as a number and an alignment. -/
theorem placeholder?_eq_some_iff_of_unformatted {front : List Char} (unformatted : ':' ∉ front)
    {placeholder : Placeholder} :
    placeholder? front = some placeholder ↔
      placeholder.SpellsFront front ∧ placeholder.format = none := by
  obtain ⟨number, alignment, format⟩ := placeholder
  have index_iff : ∀ index : List Char, unsigned? UInt64.size (trim index) = some number ↔
      ∃ digits, SpellsNumber number digits ∧ number < UInt64.size ∧ Padded digits index := by
    intro index
    rw [unsigned?_eq_some_iff]
    constructor
    · rintro ⟨spells, small⟩
      exact ⟨trim index, spells, small, padded_trim index⟩
    · rintro ⟨digits, spells, small, pads⟩
      rw [pads.trim_eq spells.not_isBlank]
      exact ⟨spells, small⟩
  unfold placeholder?
  simp only [splitOnce?_eq_none_iff.mpr unformatted]
  constructor
  · intro read
    split at read
    · rename_i index width divided
      split at read
      · rename_i width_eq number_eq
        cases read
        obtain ⟨digits, spells, small, pads⟩ := (index_iff index).mp number_eq
        obtain ⟨valid, padded⟩ := alignment?_eq_some_iff.mp width_eq
        exact ⟨⟨digits, index, _, splitOnce?_eq_some divided, spells, small, pads, valid, _, rfl,
          padded⟩, rfl⟩
      · cases read
    · split at read
      · rename_i number_eq
        cases read
        obtain ⟨digits, spells, small, pads⟩ := (index_iff front).mp number_eq
        exact ⟨⟨digits, front, [], (List.append_nil front).symm, spells, small, pads, rfl⟩, rfl⟩
      · cases read
  · rintro ⟨⟨digits, index, chars, rfl, spells, small, pads, aligned⟩, rfl⟩
    have number_eq := (index_iff index).mpr ⟨digits, spells, small, pads⟩
    have undivided : ',' ∉ index := not_mem_index (by decide) spells pads
    cases alignment with
    | none =>
        have chars_eq : chars = [] := aligned
        simp only [chars_eq, List.append_nil, splitOnce?_eq_none_iff.mpr undivided, number_eq]
    | some width =>
        obtain ⟨valid, padded, rfl, padding⟩ := aligned
        simp only [splitOnce?_eq_some_iff.mpr ⟨undivided, rfl⟩,
          alignment?_eq_some_iff.mpr ⟨valid, padding⟩, number_eq]

/-- What stands behind the first colon of an item is its format. -/
theorem placeholder?_append_colon {front : List Char} (unformatted : ':' ∉ front)
    (format : List Char) :
    placeholder? (front ++ ':' :: format) =
      (placeholder? front).map fun placeholder =>
        { placeholder with format := some (String.ofList format) } := by
  unfold placeholder?
  simp only [splitOnce?_eq_some_iff.mpr ⟨unformatted, rfl⟩, splitOnce?_eq_none_iff.mpr unformatted]
  split <;> split <;> rfl

/-- An item is read from its spellings, and from nothing else. -/
theorem placeholder?_eq_some_iff {item : List Char} (unclosed : '\x7d' ∉ item)
    {placeholder : Placeholder} :
    placeholder? item = some placeholder ↔ placeholder.Spells item := by
  cases divided : splitOnce? ':' item with
  | none =>
      have unformatted : ':' ∉ item := splitOnce?_eq_none_iff.mp divided
      rw [placeholder?_eq_some_iff_of_unformatted unformatted]
      constructor
      · rintro ⟨fronts, stored⟩
        refine ⟨item, [], (List.append_nil item).symm, fronts, ?_⟩
        rw [stored]
        rfl
      · rintro ⟨front, format, rfl, fronts, formats⟩
        cases stored : placeholder.format with
        | none =>
            rw [stored] at formats
            have format_eq : format = [] := formats
            rw [format_eq, List.append_nil]
            exact ⟨fronts, rfl⟩
        | some text =>
            rw [stored] at formats
            obtain ⟨-, rfl⟩ := formats
            simp at unformatted
  | some parts =>
      obtain ⟨front, text⟩ := parts
      obtain ⟨unformatted, rfl⟩ := splitOnce?_eq_some_iff.mp divided
      rw [placeholder?_append_colon unformatted, Option.map_eq_some_iff]
      simp only [placeholder?_eq_some_iff_of_unformatted unformatted]
      constructor
      · rintro ⟨unformattedItem, ⟨fronts, -⟩, rfl⟩
        refine ⟨front, _, rfl, fronts, ?_, ?_⟩
        · rw [String.toList_ofList]
          exact fun member => unclosed (by simp [member])
        · rw [String.toList_ofList]
      · rintro ⟨others, format, joined, fronts, formats⟩
        have undivided : ':' ∉ others := fronts.not_mem (by decide)
        obtain ⟨number, alignment, stored⟩ := placeholder
        cases stored with
        | none =>
            have format_eq : format = [] := formats
            rw [format_eq, List.append_nil] at joined
            exact absurd (joined ▸ by simp) undivided
        | some stored =>
            obtain ⟨-, rfl⟩ := formats
            rw [joined, splitOnce?_eq_some_iff.mpr ⟨undivided, rfl⟩] at divided
            cases divided
            exact ⟨⟨number, alignment, none⟩, ⟨fronts, rfl⟩, by rw [String.ofList_toList]⟩

end AqlPipeline.FormatString
