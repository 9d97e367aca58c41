import AqlPipeline.Proofs.Query.PathSpans
import AqlPipeline.Proofs.Query.Finish
import AqlPipeline.Proofs.Text.Search
import Mathlib.Data.List.Forall2

/-!
# Texts of spans in finished queries

All numbers of rows to leave out are inserted at one place, behind the first limit of the body, and
the last of them comes first.  The spans of the body move along: a span that has the place strictly
inside takes the numbers in, and any other span keeps its text.
-/

namespace AqlPipeline

namespace Text

/-! ## First mentions -/

/-- Whether the first part of a text that is a word up to ASCII case starts at an offset. -/
def FirstMention (text word : String) (start : Nat) : Prop :=
  (∃ before found after, text = before ++ (found ++ after) ∧ sameUpToCase found word ∧
    before.utf8ByteSize = start) ∧
  ∀ before found after, text = before ++ (found ++ after) → sameUpToCase found word →
    start ≤ before.utf8ByteSize

theorem utf8Size_toLower (char : Char) : char.toLower.utf8Size = char.utf8Size := by
  unfold Char.toLower
  split
  · -- Letters have one byte in either case.
    rename_i upper
    have high : char.val.toNat ≤ 90 := UInt32.le_iff_toNat_le.mp upper.2
    have letter : char.utf8Size = 1 :=
      Char.utf8Size_eq_one_iff.mpr (UInt32.le_iff_toNat_le.mpr (Nat.le_trans high (by decide)))
    have lowered : (char.val + ('a'.val - 'A'.val)).toNat ≤ 127 := by
      have gap : ('a'.val - 'A'.val).toNat = 32 := by decide
      rw [UInt32.toNat_add, gap]
      omega
    rw [letter, Char.utf8Size_eq_one_iff]
    exact UInt32.le_iff_toNat_le.mpr lowered
  · rfl

theorem byteSize_of_sameUpToCase {found word : List Char}
    (same : found.map Char.toLower = word.map Char.toLower) : byteSize found = byteSize word := by
  have lowered : ∀ chars : List Char, byteSize (chars.map Char.toLower) = byteSize chars := by
    intro chars
    induction chars with
    | nil => rfl
    | cons char chars ih => rw [List.map_cons, byteSize, byteSize, utf8Size_toLower, ih]
  rw [← lowered found, same, lowered]

/-- A search finds no occurrence behind another one. -/
theorem byteSize_le_of_splitBefore? {token text before after start found rest : List Char}
    (split : splitBefore? token text = some (before, after))
    (text_eq : text = start ++ (found ++ rest))
    (same : found.map Char.toLower = token.map Char.toLower) :
    byteSize before ≤ byteSize start := by
  induction text generalizing before start with
  | nil =>
      rw [splitBefore?] at split
      split at split
      · cases split
        exact Nat.zero_le _
      · cases split
  | cons char text ih =>
      rw [splitBefore?] at split
      split at split
      · cases split
        exact Nat.zero_le _
      · rename_i missed
        obtain ⟨⟨front, back⟩, later, pair_eq⟩ := Option.map_eq_some_iff.mp split
        cases pair_eq
        cases start with
        | nil => exact absurd (beginsWith_iff.mpr ⟨found, rest, text_eq, same⟩) missed
        | cons first start =>
            obtain ⟨rfl, tail_eq⟩ := List.cons.inj text_eq
            have earlier := ih later tail_eq
            rw [byteSize, byteSize]
            omega

/-- A search behind a word finds its first mention. -/
theorem firstMention_of_splitBehind? {text word : String} {front back : List Char}
    (split : splitBehind? word.toList text.toList = some (front, back)) :
    ∃ start, FirstMention text word start ∧ byteSize front = start + word.utf8ByteSize := by
  obtain ⟨⟨before, rest⟩, first, pair_eq⟩ := Option.map_eq_some_iff.mp split
  have text_eq := eq_append_of_splitBefore? first
  obtain ⟨found, behind, rfl, same⟩ := beginsWith_iff.mp (beginsWith_of_splitBefore? first)
  have length_eq : found.length = word.toList.length := by simpa using congrArg List.length same
  obtain ⟨rfl, -⟩ := Prod.mk.inj pair_eq
  refine ⟨byteSize before, ⟨⟨.ofList before, .ofList found, .ofList behind, ?_, ?_, ?_⟩, ?_⟩, ?_⟩
  · apply String.toList_inj.mp
    simpa using text_eq
  · simpa [sameUpToCase] using same
  · simp [utf8ByteSize_eq]
  · intro start other after other_eq alike
    rw [utf8ByteSize_eq]
    have chars_eq : text.toList = start.toList ++ (other.toList ++ after.toList) := by
      simp [other_eq]
    exact byteSize_le_of_splitBefore? first chars_eq (by simpa [sameUpToCase] using alike)
  · rw [List.take_left' length_eq, byteSize_append, byteSize_of_sameUpToCase same, utf8ByteSize_eq]

theorem splitBehind?_eq_none_iff {text word : String} :
    splitBehind? word.toList text.toList = none ↔ ¬ Mentions text word := by
  rw [← occursIn_iff_mentions, occursIn, splitBehind?, Option.map_eq_none_iff,
    Option.not_isSome_iff_eq_none]

end Text

/-! ## Insertions at one place -/

namespace Span

theorem shift_zero (span : Span) (place : Nat) : span.shift place 0 = span := by
  rcases span.shift_cases place 0 with ⟨-, shift_eq⟩ | ⟨-, -, shift_eq⟩ | ⟨-, -, shift_eq⟩ <;>
    rw [shift_eq] <;> rfl

/-- Two insertions at a place are one. -/
theorem shift_shift (span : Span) (place first second : Nat) :
    (span.shift place first).shift place second = span.shift place (second + first) := by
  rcases span.shift_cases place first with
    ⟨behind, shift_eq⟩ | ⟨starts, ends, shift_eq⟩ | ⟨starts, ends, shift_eq⟩ <;> rw [shift_eq]
  · rw [shift, shift, if_pos (Nat.le_add_right_of_le behind), if_pos behind]
    simp only [Span.mk.injEq, and_true]
    omega
  · have later : place < stop ⟨span.offset, span.length + first⟩ := by
      simp only [stop] at ends ⊢
      omega
    rw [shift, shift, if_neg (Nat.not_le.mpr starts), if_pos later, if_neg (Nat.not_le.mpr starts),
      if_pos ends]
    simp only [Span.mk.injEq, true_and]
    omega
  · rw [shift, shift, if_neg (Nat.not_le.mpr starts), if_neg (Nat.not_lt.mpr ends),
      if_neg (Nat.not_le.mpr starts), if_neg (Nat.not_lt.mpr ends)]

end Span

namespace Trail

theorem shift_zero (trail : Trail) (place : Nat) : trail.shift place 0 = trail := by
  obtain ⟨segments, spans⟩ := trail
  cases spans <;> simp [shift, mapSpans, Span.shift_zero]

theorem shift_shift (trail : Trail) (place first second : Nat) :
    (trail.shift place first).shift place second = trail.shift place (second + first) := by
  obtain ⟨segments, spans⟩ := trail
  cases spans <;> simp [shift, mapSpans, Span.shift_shift]

end Trail

namespace Writer

/-- The numbers of rows to leave out as they are inserted: the last one comes first. -/
def insertedSkips (counts : List Int) : String :=
  String.join (counts.reverse.map fun count => toString count ++ ", ")

/-- A writer with text inserted into its body between two parts. -/
def patchedAt (writer : Writer) (front inserted back : String) : Writer :=
  { writer with
    output := { writer.output with text := front ++ inserted ++ back }
    trail := writer.trail.shift front.utf8ByteSize inserted.utf8ByteSize }

theorem insertedSkips_cons (count : Int) (counts : List Int) :
    insertedSkips (count :: counts) = insertedSkips counts ++ (toString count ++ ", ") := by
  simp [insertedSkips]

theorem patchedAt_empty {writer : Writer} {front back : String}
    (text_eq : writer.output.text = front ++ back) : writer.patchedAt front "" back = writer := by
  unfold patchedAt
  rw [String.append_empty, ← text_eq, String.utf8ByteSize_empty, Trail.shift_zero]

section Limit

variable {writer : Writer} {front : String}
  (found : ∀ back, Text.splitBehind? limitToken.toList (front.toList ++ back) =
    some (front.toList, back))

include found

/-- The search for the limit does not see what has been inserted behind it. -/
theorem insertBehind?_patchedAt (number inserted back : String) :
    (writer.patchedAt front inserted back).insertBehind? limitToken number =
      some (front.utf8ByteSize, writer.patchedAt front (number ++ inserted) back) := by
  have text_eq : (front ++ inserted ++ back).toList =
      front.toList ++ (inserted.toList ++ back.toList) := by
    simp
  unfold insertBehind? Output.insertBehind? patchedAt
  rw [text_eq, found]
  simp [Trail.shift_shift, Text.utf8ByteSize_eq, String.append_assoc]

theorem patchSkip_patchedAt (inserted back : String) (count : Int) :
    (writer.patchedAt front inserted back).patchSkip count =
      writer.patchedAt front (toString count ++ ", " ++ inserted) back := by
  rw [patchSkip, insertBehind?_patchedAt found]

theorem foldl_patchSkip_patchedAt (counts : List Int) (inserted back : String) :
    counts.foldl patchSkip (writer.patchedAt front inserted back) =
      writer.patchedAt front (insertedSkips counts ++ inserted) back := by
  induction counts generalizing inserted with
  | nil =>
      have none_inserted : insertedSkips [] = "" := rfl
      rw [List.foldl_nil, none_inserted, String.empty_append]
  | cons count counts ih =>
      rw [List.foldl_cons, patchSkip_patchedAt found, ih, insertedSkips_cons]
      simp only [String.append_assoc]

end Limit

theorem patchSkip_of_not_mentions {writer : Writer}
    (absent : ¬ Text.Mentions writer.output.text limitToken) (count : Int) :
    writer.patchSkip count = writer := by
  rw [patchSkip, insertBehind?, Output.insertBehind?, Text.splitBehind?_eq_none_iff.mpr absent]
  rfl

theorem foldl_patchSkip_of_not_mentions {writer : Writer}
    (absent : ¬ Text.Mentions writer.output.text limitToken) (counts : List Int) :
    counts.foldl patchSkip writer = writer := by
  induction counts with
  | nil => rfl
  | cons count counts ih => rw [List.foldl_cons, patchSkip_of_not_mentions absent, ih]

end Writer

/-! ## Texts of spans -/

/-- Where text is inserted into a body, and the body with it: behind the first limit, if there is
one. -/
inductive Patch (body inserted : String) : (place : Option Nat) → (patched : String) → Prop
  /-- The limit and the space behind it take six bytes. -/
  | limit {start : Nat} {front back : String} (first : Text.FirstMention body "LIMIT " start)
      (body_eq : body = front ++ back) (size_eq : front.utf8ByteSize = start + 6) :
      Patch body inserted (some (start + 6)) (front ++ inserted ++ back)
  /-- There is no limit. -/
  | unlimited (absent : ¬ Text.Mentions body "LIMIT ") : Patch body inserted none body

/-- What a span with a part of a body has after an insertion. -/
inductive Covers (place : Option Nat) (inserted : String) (span : Span) (part : String) :
    (covered : String) → Prop
  /-- Text in front of a span, behind it or at one of its ends does not change the part. -/
  | kept (outside : ∀ offset ∈ place, ¬ (span.offset < offset ∧ offset < span.stop)) :
      Covers place inserted span part part
  /-- Text strictly inside of a span stands at its place in the part. -/
  | grown {offset : Nat} {front back : String} (placed : place = some offset)
      (starts : span.offset < offset) (ends : offset < span.stop) (part_eq : part = front ++ back)
      (size_eq : span.offset + front.utf8ByteSize = offset) :
      Covers place inserted span part (front ++ inserted ++ back)

/-- A shifted span has what it covers after the insertion. -/
theorem covers_shift {front inserted back part : String} {span : Span}
    (sliced : Text.slice? (front ++ back) span.offset span.length = some part) :
    ∃ covered, Covers (some front.utf8ByteSize) inserted span part covered ∧
      Text.slice? (front ++ inserted ++ back)
        (span.shift front.utf8ByteSize inserted.utf8ByteSize).offset
        (span.shift front.utf8ByteSize inserted.utf8ByteSize).length = some covered := by
  rcases span.shift_cases front.utf8ByteSize inserted.utf8ByteSize with
    ⟨behind, shift_eq⟩ | ⟨starts, ends, shift_eq⟩ | ⟨starts, ends, shift_eq⟩ <;> rw [shift_eq]
  · refine ⟨part, .kept ?_, Text.slice?_insert_front sliced behind⟩
    rintro offset ⟨⟩ ⟨inside, -⟩
    exact absurd behind (Nat.not_le.mpr inside)
  · obtain ⟨first, second, part_eq, size_eq, grown⟩ :=
      Text.slice?_insert_around sliced (Nat.le_of_lt starts) (Nat.le_of_lt ends)
    exact ⟨first ++ inserted ++ second, .grown rfl starts ends part_eq size_eq, grown⟩
  · refine ⟨part, .kept ?_, Text.slice?_insert_behind sliced ends⟩
    rintro offset ⟨⟩ ⟨-, inside⟩
    exact absurd ends (Nat.not_le.mpr inside)

/-- A text put in front moves all spans. -/
theorem slice?_shift_zero {body part : String} {span : Span}
    (sliced : Text.slice? body span.offset span.length = some part) (header : String) :
    Text.slice? (header ++ body) (span.shift 0 header.utf8ByteSize).offset
      (span.shift 0 header.utf8ByteSize).length = some part := by
  have behind : Text.slice? ("" ++ header ++ body) (span.offset + header.utf8ByteSize)
      span.length = some part :=
    Text.slice?_insert_front (by rwa [String.empty_append]) (Nat.zero_le _)
  rw [Span.shift, if_pos (Nat.zero_le _)]
  rwa [String.empty_append] at behind

namespace Writer

/-- Whether spans of a body, moved in some way, have what they cover in the body after an
insertion. -/
def Follows (move : Span → Span) (body patched inserted : String) (place : Option Nat) : Prop :=
  ∀ span part, Text.slice? body span.offset span.length = some part →
    ∃ covered, Covers place inserted span part covered ∧
      Text.slice? patched (move span).offset (move span).length = some covered

/-- All numbers go to one place, and the spans are moved along with the text. -/
theorem patchSkips_moves (writer : Writer) :
    ∃ place patched move,
      Patch writer.output.text (insertedSkips writer.skips) place patched ∧
      Follows move writer.output.text patched (insertedSkips writer.skips) place ∧
      writer.patchSkips =
        { writer with
          output := { writer.output with text := patched }
          trail := writer.trail.mapSpans fun spans =>
            spans.map fun entry => (entry.1, move entry.2) } := by
  cases split : Text.splitBehind? limitToken.toList writer.output.text.toList with
  | none =>
      have absent := Text.splitBehind?_eq_none_iff.mp split
      refine ⟨none, _, id, .unlimited absent, ?_, ?_⟩
      · exact fun span part sliced => ⟨part, .kept (by simp), sliced⟩
      · rw [patchSkips, foldl_patchSkip_of_not_mentions absent]
        simp [Trail.mapSpans]
  | some parts =>
      obtain ⟨front, back⟩ := parts
      obtain ⟨start, first, size_eq⟩ := Text.firstMention_of_splitBehind? split
      obtain ⟨-, -, -, -, -, again⟩ := Text.splitBehind?_eq_some split
      have body_eq : writer.output.text = .ofList front ++ .ofList back := by
        apply String.toList_inj.mp
        simpa using Text.eq_append_of_splitBehind? split
      have place_eq : (String.ofList front).utf8ByteSize = start + 6 := by
        rw [Text.utf8ByteSize_eq, String.toList_ofList, size_eq]
        rfl
      refine ⟨some (start + 6), _,
        Span.shift (start + 6) (insertedSkips writer.skips).utf8ByteSize,
        .limit first body_eq place_eq, ?_, ?_⟩
      · intro span part sliced
        rw [body_eq] at sliced
        rw [← place_eq]
        exact covers_shift sliced
      · have patched : writer.skips.foldl patchSkip
            (writer.patchedAt (.ofList front) "" (.ofList back)) =
              writer.patchedAt (.ofList front) (insertedSkips writer.skips ++ "") (.ofList back) :=
          foldl_patchSkip_patchedAt (by simpa using again) _ _ _
        rw [patchedAt_empty body_eq, String.append_empty] at patched
        rw [patchSkips, patched, ← place_eq]
        rfl

/-- Text and spans of a finished query.  The numbers of rows to leave out are behind the first limit
of the body, the loop is in front of it, and the iteration variable is returned exactly if the body
does not mention a return.  Each span has the text that it had in the body, with the numbers at
their place if that is strictly inside of it. -/
theorem finish_patched (writer : Writer) :
    ∃ place patched,
      Patch writer.output.text (insertedSkips writer.skips) place patched ∧
      (Text.Mentions patched "return" →
        writer.finish.text =
          "FOR " ++ writer.iterator ++ " IN " ++ writer.facts.collection.getD "" ++ patched) ∧
      (¬ Text.Mentions patched "return" →
        writer.finish.text =
          "FOR " ++ writer.iterator ++ " IN " ++ writer.facts.collection.getD "" ++ patched ++
            "\nRETURN " ++ writer.iterator) ∧
      Option.Rel
        (List.Forall₂ fun old final => final.1 = old.1 ∧
          ∀ part, Text.slice? writer.output.text old.2.offset old.2.length = some part →
            ∃ covered, Covers place (insertedSkips writer.skips) old.2 part covered ∧
              Text.slice? writer.finish.text final.2.offset final.2.length = some covered)
        writer.trail.spans writer.finish.spans := by
  obtain ⟨place, patched, move, patches, follows, patched_eq⟩ := writer.patchSkips_moves
  have text_eq : writer.finish.text = writer.header ++ patched ++ writer.patchSkips.footer := by
    rw [finish, patched_eq]
    rfl
  have spans_eq : writer.finish.spans = writer.trail.spans.map fun spans =>
      spans.map fun entry => (entry.1, (move entry.2).shift 0 writer.header.utf8ByteSize) := by
    rw [finish, patched_eq]
    change Option.map _ (Option.map _ _) = _
    simp [header, iterator, Function.comp_def]
  have returns : writer.patchSkips.output.contains "return" ↔ Text.Mentions patched "return" := by
    rw [Text.contains_iff_mentions, patched_eq]
  refine ⟨place, patched, patches, ?_, ?_, ?_⟩
  · intro mentions
    rw [text_eq, footer, if_pos (returns.mpr mentions), String.append_empty]
    rfl
  · intro absent
    have iterator_eq : writer.patchSkips.iterator = writer.iterator := by
      rw [patched_eq]
      rfl
    rw [text_eq, footer, if_neg (fun contains => absent (returns.mp contains)), iterator_eq,
      ← String.append_assoc]
    rfl
  · rw [spans_eq]
    cases writer.trail.spans with
    | none => exact .none
    | some spans =>
        refine .some (List.forall₂_map_right_iff.mpr (List.forall₂_same.mpr ?_))
        intro entry member
        refine ⟨rfl, fun part sliced => ?_⟩
        obtain ⟨covered, covers, moved⟩ := follows entry.2 part sliced
        refine ⟨covered, covers, ?_⟩
        rw [text_eq]
        exact Text.slice?_append (slice?_shift_zero moved _) _

-- The place is inside of the first span, at the end of the second one and at the start of the last.
example :
    let query := finish
      { start {} with
        output := ⟨"\nlimit 10", 0, false⟩
        trail := ⟨[], some [("Limit", ⟨1, 8⟩), ("Word", ⟨1, 6⟩), ("Rows", ⟨7, 2⟩)]⟩
        skips := [5, 7] }
    query.text = "FOR x IN \nlimit 7, 5, 10\nRETURN x" ∧
      ["Limit", "Word", "Rows"].map query.textAt? =
        [some "limit 7, 5, 10", some "limit ", some "10"] := by
  decide

end Writer

end AqlPipeline
