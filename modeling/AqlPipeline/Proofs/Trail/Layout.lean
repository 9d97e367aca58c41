import AqlPipeline.Proofs.Text.Cut
import AqlPipeline.Trail

/-!
# How spans lie in a text

Spans are laid out in a text when each of them is a slice of it and no two of them cross.  Adding to
the text keeps them so, and so does inserting text while the spans are shifted.
-/

namespace AqlPipeline

namespace Span

/-- Whether a span is a part of another one. -/
def Inside (inner outer : Span) : Prop :=
  outer.offset ≤ inner.offset ∧ inner.stop ≤ outer.stop

/-- Whether two spans have no text in common. -/
def Disjoint (first second : Span) : Prop :=
  first.stop ≤ second.offset ∨ second.stop ≤ first.offset

/-- Whether two spans do not cross: one is inside of the other, or they are disjoint. -/
def Nests (first second : Span) : Prop :=
  first.Inside second ∨ second.Inside first ∨ first.Disjoint second

theorem nests_self (span : Span) : span.Nests span :=
  .inl ⟨Nat.le_refl _, Nat.le_refl _⟩

theorem Nests.symm {first second : Span} (nests : first.Nests second) : second.Nests first := by
  rcases nests with inside | inside | apart | apart
  · exact .inr (.inl inside)
  · exact .inl inside
  · exact .inr (.inr (.inr apart))
  · exact .inr (.inr (.inl apart))

/-- A span behind an insertion moves, one around it grows, and one in front of it stays. -/
theorem shift_cases (span : Span) (place count : Nat) :
    (place ≤ span.offset ∧ span.shift place count = ⟨span.offset + count, span.length⟩) ∨
      (span.offset < place ∧ place < span.stop ∧
        span.shift place count = ⟨span.offset, span.length + count⟩) ∨
      (span.offset < place ∧ span.stop ≤ place ∧ span.shift place count = span) := by
  unfold Span.shift
  by_cases behind : place ≤ span.offset
  · exact .inl ⟨behind, if_pos behind⟩
  · rw [if_neg behind]
    have starts := Nat.lt_of_not_le behind
    by_cases around : place < span.stop
    · exact .inr (.inl ⟨starts, around, if_pos around⟩)
    · exact .inr (.inr ⟨starts, Nat.le_of_not_lt around, if_neg around⟩)

/-- Spans that do not cross do not cross after an insertion.  An empty span at the place of the
insertion moves, so it may leave a span that ends there. -/
theorem Nests.shift {first second : Span} (nests : first.Nests second) (place count : Nat) :
    (first.shift place count).Nests (second.shift place count) := by
  rcases first.shift_cases place count with
    ⟨_, first_eq⟩ | ⟨_, _, first_eq⟩ | ⟨_, _, first_eq⟩ <;>
  rcases second.shift_cases place count with
    ⟨_, second_eq⟩ | ⟨_, _, second_eq⟩ | ⟨_, _, second_eq⟩ <;>
  rw [first_eq, second_eq] <;>
  simp only [Nests, Inside, Disjoint, stop] at * <;>
  omega

end Span

/-! ## Tables of spans -/

theorem mem_setSpan {path : String} {span : Span} {spans : List (String × Span)}
    {entry : String × Span} (member : entry ∈ setSpan path span spans) :
    entry = (path, span) ∨ entry ∈ spans := by
  induction spans with
  | nil => exact .inl (List.mem_singleton.mp member)
  | cons head spans ih =>
      obtain ⟨other, old⟩ := head
      rw [setSpan] at member
      split at member
      · rename_i same
        subst same
        rcases List.mem_cons.mp member with found | found
        · exact .inl found
        · exact .inr (List.mem_cons_of_mem _ found)
      · rcases List.mem_cons.mp member with found | found
        · exact .inr (found ▸ List.mem_cons_self)
        · rcases ih found with set | kept
          · exact .inl set
          · exact .inr (List.mem_cons_of_mem _ kept)

theorem mem_paths_setSpan {path other : String} {span : Span} {spans : List (String × Span)}
    (member : other ∈ (setSpan path span spans).map Prod.fst) :
    other = path ∨ other ∈ spans.map Prod.fst := by
  obtain ⟨entry, found, rfl⟩ := List.mem_map.mp member
  rcases mem_setSpan found with rfl | kept
  · exact .inl rfl
  · exact .inr (List.mem_map_of_mem kept)

theorem nodup_setSpan (path : String) (span : Span) {spans : List (String × Span)}
    (distinct : (spans.map Prod.fst).Nodup) : ((setSpan path span spans).map Prod.fst).Nodup := by
  induction spans with
  | nil => simp [setSpan]
  | cons head spans ih =>
      obtain ⟨other, old⟩ := head
      rw [List.map_cons, List.nodup_cons] at distinct
      rw [setSpan]
      split
      · rw [List.map_cons, List.nodup_cons]
        exact distinct
      · rename_i different
        rw [List.map_cons, List.nodup_cons]
        refine ⟨fun member => ?_, ih distinct.2⟩
        rcases mem_paths_setSpan member with same | kept
        · exact different same
        · exact distinct.1 kept

@[simp] theorem findSpan?_setSpan (path : String) (span : Span) (spans : List (String × Span)) :
    findSpan? path (setSpan path span spans) = some span := by
  induction spans with
  | nil => simp [setSpan, findSpan?]
  | cons head spans ih =>
      obtain ⟨other, old⟩ := head
      rw [setSpan]
      split
      · simp [findSpan?, *]
      · simp [findSpan?, *]

theorem mem_of_findSpan? {path : String} {span : Span} {spans : List (String × Span)}
    (found : findSpan? path spans = some span) : (path, span) ∈ spans := by
  induction spans with
  | nil => simp [findSpan?] at found
  | cons head spans ih =>
      obtain ⟨other, old⟩ := head
      rw [findSpan?] at found
      split at found
      · rename_i same
        cases found
        exact same ▸ List.mem_cons_self
      · exact List.mem_cons_of_mem _ (ih found)

theorem findSpan?_of_mem {path : String} {span : Span} {spans : List (String × Span)}
    (distinct : (spans.map Prod.fst).Nodup) (member : (path, span) ∈ spans) :
    findSpan? path spans = some span := by
  induction spans with
  | nil => simp at member
  | cons head spans ih =>
      obtain ⟨other, old⟩ := head
      rw [List.map_cons, List.nodup_cons] at distinct
      rw [findSpan?]
      rcases List.mem_cons.mp member with same | later
      · cases same
        exact if_pos rfl
      · have different : other ≠ path := by
          rintro rfl
          exact distinct.1 (List.mem_map.mpr ⟨_, later, rfl⟩)
        rw [if_neg different]
        exact ih distinct.2 later

/-! ## Layouts -/

/-- Spans that are laid out in a text. -/
structure Laid (text : String) (spans : List (String × Span)) : Prop where
  /-- No path has two spans. -/
  distinct : (spans.map Prod.fst).Nodup
  /-- Each span can be cut out of the text. -/
  sliced : ∀ entry ∈ spans, ∃ part, Text.slice? text entry.2.offset entry.2.length = some part
  /-- No two spans cross. -/
  nests : ∀ first ∈ spans, ∀ second ∈ spans, first.2.Nests second.2

namespace Laid

theorem nil (text : String) : Laid text [] :=
  ⟨List.nodup_nil, by simp, by simp⟩

variable {text : String} {spans : List (String × Span)}

theorem stop_le_size (laid : Laid text spans) {entry : String × Span} (member : entry ∈ spans) :
    entry.2.stop ≤ text.utf8ByteSize := by
  obtain ⟨part, sliced⟩ := laid.sliced entry member
  obtain ⟨before, after, rfl, offset_eq, length_eq⟩ := Text.slice?_eq_some_iff.mp sliced
  simp only [Span.stop, ← offset_eq, ← length_eq, String.utf8ByteSize_append]
  omega

theorem append (laid : Laid text spans) (more : String) : Laid (text ++ more) spans where
  distinct := laid.distinct
  sliced entry member := by
    obtain ⟨part, sliced⟩ := laid.sliced entry member
    exact ⟨part, Text.slice?_append sliced more⟩
  nests := laid.nests

/-- A span that crosses none of the others is recorded. -/
theorem set (laid : Laid text spans) (path : String) {span : Span}
    (sliced : ∃ part, Text.slice? text span.offset span.length = some part)
    (nests : ∀ entry ∈ spans, entry.2.Nests span) : Laid text (setSpan path span spans) where
  distinct := nodup_setSpan path span laid.distinct
  sliced entry member := by
    rcases mem_setSpan member with rfl | kept
    · exact sliced
    · exact laid.sliced entry kept
  nests first firstMember second secondMember := by
    rcases mem_setSpan firstMember with rfl | firstKept <;>
      rcases mem_setSpan secondMember with rfl | secondKept
    · exact span.nests_self
    · exact (nests second secondKept).symm
    · exact nests first firstKept
    · exact laid.nests first firstKept second secondKept

/-- A text is cut back, and only spans in front of the cut are kept. -/
theorem cutBack {more : String} (laid : Laid (text ++ more) spans) (test : String × Span → Bool)
    (front : ∀ entry ∈ spans, test entry → entry.2.stop ≤ text.utf8ByteSize) :
    Laid text (spans.filter test) where
  distinct := laid.distinct.sublist (List.filter_sublist.map Prod.fst)
  sliced entry member := by
    obtain ⟨kept, passed⟩ := List.mem_filter.mp member
    obtain ⟨part, sliced⟩ := laid.sliced entry kept
    exact ⟨part, Text.slice?_of_append sliced (front entry kept passed)⟩
  nests first firstMember second secondMember :=
    laid.nests first (List.mem_filter.mp firstMember).1 second (List.mem_filter.mp secondMember).1

/-- Text is inserted, and the spans are shifted. -/
theorem insert {before after : String} (laid : Laid (before ++ after) spans) (inserted : String) :
    Laid (before ++ inserted ++ after) (spans.map fun entry =>
      (entry.1, entry.2.shift before.utf8ByteSize inserted.utf8ByteSize)) where
  distinct := by
    rw [List.map_map]
    exact laid.distinct
  sliced entry member := by
    obtain ⟨⟨path, span⟩, old, rfl⟩ := List.mem_map.mp member
    obtain ⟨part, sliced⟩ := laid.sliced _ old
    rcases span.shift_cases before.utf8ByteSize inserted.utf8ByteSize with
      ⟨front, shift_eq⟩ | ⟨starts, ends, shift_eq⟩ | ⟨-, behind, shift_eq⟩ <;>
      simp only [shift_eq]
    · exact ⟨part, Text.slice?_insert_front sliced front⟩
    · obtain ⟨_, _, -, -, grown⟩ :=
        Text.slice?_insert_around sliced (Nat.le_of_lt starts) (Nat.le_of_lt ends)
      exact ⟨_, grown⟩
    · exact ⟨part, Text.slice?_insert_behind sliced behind⟩
  nests first firstMember second secondMember := by
    obtain ⟨firstOld, firstFound, rfl⟩ := List.mem_map.mp firstMember
    obtain ⟨secondOld, secondFound, rfl⟩ := List.mem_map.mp secondMember
    exact (laid.nests firstOld firstFound secondOld secondFound).shift _ _

end Laid

end AqlPipeline
