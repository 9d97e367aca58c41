import AqlPipeline.Proofs.Script.Places
import AqlPipeline.Proofs.Writer.Run

/-!
# Paths inside of paths

A path goes on from another one behind a point.  Of the segments that a script visits next to each
other, with equally many points in each, only one can be on the way to a path.
-/

namespace AqlPipeline.Trail

/-- Whether a path goes on from another one.  All paths go on from the empty one. -/
def Encloses (outer inner : String) : Prop :=
  (outer = "" ∧ inner ≠ "") ∨ ∃ more, inner = outer ++ "." ++ more

/-- Whether a path is another one or goes on from it. -/
def Covers (outer inner : String) : Prop :=
  inner = outer ∨ Encloses outer inner

namespace Encloses

variable {outer middle inner : String}

theorem ne_empty (encloses : Encloses outer inner) : inner ≠ "" := by
  rcases encloses with ⟨-, named⟩ | ⟨more, rfl⟩
  · exact named
  · intro empty
    simpa using congrArg String.length empty

theorem trans (outers : Encloses outer middle) (inners : Encloses middle inner) :
    Encloses outer inner := by
  rcases outers with ⟨rfl, -⟩ | ⟨more, rfl⟩
  · exact .inl ⟨rfl, inners.ne_empty⟩
  · rcases inners with ⟨empty, -⟩ | ⟨rest, rfl⟩
    · exact absurd (congrArg String.length empty) (by simp)
    · exact .inr ⟨more ++ "." ++ rest, by simp only [String.append_assoc]⟩

theorem irrefl (path : String) : ¬ Encloses path path := by
  rintro (⟨empty, named⟩ | ⟨more, same⟩)
  · exact named empty
  · have length_eq := congrArg String.length same
    have point : ".".length = 1 := rfl
    simp only [String.length_append, point] at length_eq
    omega

end Encloses

theorem Covers.encloses {outer middle inner : String} (covers : Covers outer middle)
    (encloses : Encloses middle inner) : Encloses outer inner := by
  rcases covers with rfl | outers
  · exact encloses
  · exact outers.trans encloses

/-! ## Joined segments -/

theorem joined_cons (segment : String) (segments : List String) :
    joined (segment :: segments) =
      (if segments = [] then "" else joined segments ++ ".") ++ segment := by
  split
  · rename_i empty
    subst empty
    simp [joined]
  · rename_i some_segments
    rw [joined, List.reverse_cons,
      String.intercalate_append_of_ne_nil (by simpa using some_segments) (by simp)]
    simp [joined]

theorem joined_ne_empty {segment : String} (named : segment ≠ "") (segments : List String) :
    joined (segment :: segments) ≠ "" := by
  rw [joined_cons]
  intro empty
  exact named (String.append_eq_empty_iff.mp empty).2

/-- A path goes on from the path without its last segment. -/
theorem encloses_joined {segment : String} (named : segment ≠ "") (segments : List String) :
    Encloses (joined segments) (joined (segment :: segments)) := by
  by_cases empty : segments = []
  · subst empty
    exact .inl ⟨rfl, joined_ne_empty named []⟩
  · exact .inr ⟨segment, by rw [joined_cons, if_neg empty]⟩

/-- What is behind a path where another one goes on from it. -/
theorem Covers.behind {outer inner : String} (named : outer ≠ "") (covers : Covers outer inner) :
    ∃ rest, inner = outer ++ String.ofList rest ∧ (rest = [] ∨ rest.head? = some '.') := by
  rcases covers with rfl | ⟨empty, -⟩ | ⟨more, rfl⟩
  · exact ⟨[], by simp, .inl rfl⟩
  · exact absurd empty named
  · refine ⟨'.' :: more.toList, ?_, .inr rfl⟩
    rw [String.append_assoc]
    apply String.toList_inj.mp
    simp

/-- A text that goes on to another one of equally many points, but not at a point, is that text. -/
theorem eq_nil_of_points {first added rest back : List Char}
    (points_eq : (first ++ added).count '.' = first.count '.')
    (split : rest = added ++ back) (goes : rest = [] ∨ rest.head? = some '.') : added = [] := by
  cases added with
  | nil => rfl
  | cons char added =>
      rcases goes with empty | point
      · rw [empty] at split
        cases split
      · rw [split] at point
        cases point
        simp at points_eq

/-- Segments of equally many points that are both on the way to a path are the same. -/
theorem eq_of_covers {first second path : String} {segments : List String}
    (first_named : first ≠ "") (second_named : second ≠ "")
    (points_eq : Script.points first = Script.points second)
    (firsts : Covers (joined (first :: segments)) path)
    (seconds : Covers (joined (second :: segments)) path) : first = second := by
  obtain ⟨rest, path_eq, rest_goes⟩ := firsts.behind (joined_ne_empty first_named segments)
  obtain ⟨back, path_eq', back_goes⟩ := seconds.behind (joined_ne_empty second_named segments)
  rw [path_eq', joined_cons, joined_cons, String.append_assoc, String.append_assoc,
    String.append_right_inj] at path_eq
  have chars : second.toList ++ back = first.toList ++ rest := by
    simpa using congrArg String.toList path_eq
  unfold Script.points at points_eq
  apply String.toList_inj.mp
  rcases List.append_eq_append_iff.mp chars with
    ⟨added, first_eq, back_eq⟩ | ⟨added, second_eq, rest_eq⟩
  · rw [first_eq] at points_eq
    rw [first_eq, eq_nil_of_points points_eq back_eq back_goes, List.append_nil]
  · rw [second_eq] at points_eq
    rw [second_eq, eq_nil_of_points points_eq.symm rest_eq rest_goes, List.append_nil]

end AqlPipeline.Trail
