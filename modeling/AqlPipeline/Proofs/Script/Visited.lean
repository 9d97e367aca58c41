import AqlPipeline.Proofs.Trail.Paths

/-!
# What is left of a script's visits

A visit that stops at what is not supported leaves its own gap and hides all that is inside of it.
So a path is shown if no visit around it is replaced, and a gap is kept if its path is shown.  In an
orderly script a gap is either kept, or inside of one that is, and no gap is around a shown path.
-/

namespace AqlPipeline.Script

open Trail

/-- The segments that a script itself visits, with what it does there. -/
def visited : Script → List (String × Script)
  | .done | .fail _ => []
  | .step _ rest => rest.visited
  | .visit segment body rest => (segment, body) :: rest.visited

/-- Whether a visit of a script is replaced by a marker. -/
def IsReplaced (script : Script) : Prop :=
  ∃ thing, script.failure? = some (.notSupported thing)

/-- The paths that a run from a path visits. -/
inductive Visits : List String → Script → String → Prop where
  /-- A visit of its own. -/
  | own {segments : List String} {script : Script} {segment : String} {body : Script}
      (member : (segment, body) ∈ script.visited) :
      Visits segments script (joined (within segment segments))
  /-- A visit inside of one. -/
  | inner {segments : List String} {script : Script} {segment path : String} {body : Script}
      (member : (segment, body) ∈ script.visited)
      (inside : Visits (within segment segments) body path) : Visits segments script path

/-- The paths that a run from a path visits and that are not inside of a part that is replaced. -/
inductive Shows : List String → Script → String → Prop where
  /-- A visit of its own. -/
  | own {segments : List String} {script : Script} {segment : String} {body : Script}
      (member : (segment, body) ∈ script.visited) :
      Shows segments script (joined (within segment segments))
  /-- A visit inside of one that is not replaced. -/
  | inner {segments : List String} {script : Script} {segment path : String} {body : Script}
      (member : (segment, body) ∈ script.visited) (stays : ¬ body.IsReplaced)
      (inside : Shows (within segment segments) body path) : Shows segments script path

/-- The gaps that a run from a path leaves and that are not inside of a part that is replaced. -/
inductive Keeps : List String → Script → Gap → Prop where
  /-- The gap of a visit of its own. -/
  | own {segments : List String} {script : Script} {segment thing : String} {body : Script}
      (member : (segment, body) ∈ script.visited)
      (fails : body.failure? = some (.notSupported thing)) :
      Keeps segments script ⟨joined (within segment segments), Writer.oneLine thing⟩
  /-- A gap inside of a visit that is not replaced. -/
  | inner {segments : List String} {script : Script} {segment : String} {body : Script} {gap : Gap}
      (member : (segment, body) ∈ script.visited) (stays : ¬ body.IsReplaced)
      (inside : Keeps (within segment segments) body gap) : Keeps segments script gap

variable {segments : List String} {script rest body : Script} {segment path : String} {gap : Gap}

theorem not_isReplaced (ends : body.failure? = none) : ¬ body.IsReplaced := by
  rintro ⟨thing, fails⟩
  rw [ends] at fails
  cases fails

theorem Visits.mono (visits : Visits segments rest path) (more : rest.visited ⊆ script.visited) :
    Visits segments script path := by
  cases visits with
  | own member => exact .own (more member)
  | inner member inside => exact .inner (more member) inside

theorem Shows.mono (shows : Shows segments rest path) (more : rest.visited ⊆ script.visited) :
    Shows segments script path := by
  cases shows with
  | own member => exact .own (more member)
  | inner member stays inside => exact .inner (more member) stays inside

theorem Keeps.mono (keeps : Keeps segments rest gap) (more : rest.visited ⊆ script.visited) :
    Keeps segments script gap := by
  cases keeps with
  | own member fails => exact .own (more member) fails
  | inner member stays inside => exact .inner (more member) stays inside

theorem Shows.visits (shows : Shows segments script path) : Visits segments script path := by
  induction shows with
  | own member => exact .own member
  | inner member _ _ ih => exact .inner member ih

theorem Keeps.shows (keeps : Keeps segments script gap) : Shows segments script gap.path := by
  induction keeps with
  | own member _ => exact .own member
  | inner member stays _ ih => exact .inner member stays ih

theorem mem_gapOf_iff {error : Option Error} : gap ∈ gapOf segments error ↔
    ∃ thing, error = some (.notSupported thing) ∧
      gap = ⟨joined segments, Writer.oneLine thing⟩ := by
  unfold gapOf
  split
  · simp
  · rename_i other
    simp only [List.not_mem_nil, false_iff]
    rintro ⟨thing, rfl, -⟩
    exact other thing rfl

/-- A gap of a script is inside of one of its visits, or is the visit's own one. -/
theorem mem_gaps_iff : gap ∈ script.gaps segments ↔
    ∃ segment body, (segment, body) ∈ script.visited ∧
      (gap ∈ body.gaps (within segment segments) ∨
        gap ∈ gapOf (within segment segments) body.failure?) := by
  induction script with
  | done => simp [gaps, visited]
  | fail error => simp [gaps, visited]
  | step first rest ih => exact ih
  | visit segment body rest _ ih =>
      rw [gaps, List.mem_append, List.mem_append, ih]
      constructor
      · rintro (own | ⟨other, inner, member, gap_member⟩)
        · exact ⟨segment, body, List.mem_cons_self, own⟩
        · exact ⟨other, inner, List.mem_cons_of_mem _ member, gap_member⟩
      · rintro ⟨other, inner, member, gap_member⟩
        rcases List.mem_cons.mp member with same | later
        · cases same
          exact .inl gap_member
        · exact .inr ⟨other, inner, later, gap_member⟩

theorem Keeps.mem_gaps (keeps : Keeps segments script gap) : gap ∈ script.gaps segments := by
  induction keeps with
  | own member fails =>
      exact mem_gaps_iff.mpr ⟨_, _, member, .inr (mem_gapOf_iff.mpr ⟨_, fails, rfl⟩)⟩
  | inner member _ _ ih => exact mem_gaps_iff.mpr ⟨_, _, member, .inl ih⟩

/-! ## Orderly scripts -/

theorem Within.placed {skips : Prop} {placed : String → Script → Prop}
    (own : Within skips placed script) (member : (segment, body) ∈ script.visited) :
    placed segment body := by
  induction own with
  | done => cases member
  | fail error => cases member
  | step _ _ ih => exact ih member
  | visit place _ ih =>
      rcases List.mem_cons.mp member with same | later
      · cases same
        exact place
      · exact ih later

theorem ne_empty_of_isAllBlank (named : Text.isAllBlank segment = false) : segment ≠ "" := by
  rintro rfl
  cases named

theorem within_eq (named : Text.isAllBlank segment = false) (segments : List String) :
    within segment segments = segment :: segments := by
  simp [within, named]

namespace Orderly

variable {skips : Prop}

theorem of_step {step : Step} (orderly : Orderly skips (.step step rest)) :
    (step.isSkip → skips) ∧ Orderly skips rest := by
  obtain ⟨places, ordered, ⟨⟩ | ⟨⟩ | ⟨allowed, rests⟩, inner⟩ := orderly
  exact ⟨allowed, .mk places ordered rests inner⟩

theorem of_visit (orderly : Orderly skips (.visit segment body rest)) : Orderly skips rest := by
  obtain ⟨places, ordered, ⟨⟩ | ⟨⟩ | ⟨⟩ | ⟨_, rests⟩, inner⟩ := orderly
  exact .mk places ordered rests inner

theorem named (orderly : Orderly skips script) (member : (segment, body) ∈ script.visited) :
    Text.isAllBlank segment = false := by
  obtain ⟨places, ordered, own, -⟩ := orderly
  obtain ⟨place, inside, holds⟩ := own.placed member
  exact holds.isAllBlank_eq (ordered.2.2 _ (List.mem_map_of_mem inside))

theorem visited_orderly (orderly : Orderly skips script)
    (member : (segment, body) ∈ script.visited) : Orderly skips body := by
  obtain ⟨places, -, own, inner⟩ := orderly
  obtain ⟨place, inside, holds⟩ := own.placed member
  exact inner place inside _ holds.mem_bodies

/-- A path is inside of one visit only, which is always the same. -/
theorem unique (orderly : Orderly skips script) {first second : String} {own other : Script}
    (firsts : (first, own) ∈ script.visited) (seconds : (second, other) ∈ script.visited)
    (first_covers : Covers (joined (within first segments)) path)
    (second_covers : Covers (joined (within second segments)) path) :
    first = second ∧ own = other := by
  have first_named := orderly.named firsts
  have second_named := orderly.named seconds
  rw [within_eq first_named] at first_covers
  rw [within_eq second_named] at second_covers
  obtain ⟨places, ordered, visits, -⟩ := orderly
  have first_placed := visits.placed firsts
  have second_placed := visits.placed seconds
  have points_eq : points first = points second := by
    obtain ⟨_, inside, holds⟩ := first_placed
    obtain ⟨_, inside', holds'⟩ := second_placed
    rw [holds.points_eq, holds'.points_eq]
    exact ordered.2.1 _ (List.mem_map_of_mem inside) _ (List.mem_map_of_mem inside')
  obtain rfl : first = second :=
    eq_of_covers (ne_empty_of_isAllBlank first_named) (ne_empty_of_isAllBlank second_named)
      points_eq first_covers second_covers
  exact ⟨rfl, first_placed.unique ordered.1 second_placed⟩

theorem encloses_within (orderly : Orderly skips script)
    (member : (segment, body) ∈ script.visited) (segments : List String) :
    Encloses (joined segments) (joined (within segment segments)) := by
  rw [within_eq (orderly.named member)]
  exact encloses_joined (ne_empty_of_isAllBlank (orderly.named member)) segments

/-- All that is visited is inside of the path of the script. -/
theorem encloses (orderly : Orderly skips script) (visits : Visits segments script path) :
    Encloses (joined segments) path := by
  induction visits with
  | own member => exact orderly.encloses_within member _
  | inner member _ ih =>
      exact (orderly.encloses_within member _).trans (ih (orderly.visited_orderly member))

/-- A path that is visited is inside of a visit. -/
theorem exists_covers (orderly : Orderly skips script) (visits : Visits segments script path) :
    ∃ segment body, (segment, body) ∈ script.visited ∧
      Covers (joined (within segment segments)) path := by
  cases visits with
  | own member => exact ⟨_, _, member, .inl rfl⟩
  | inner member inside =>
      exact ⟨_, _, member, .inr ((orderly.visited_orderly member).encloses inside)⟩

theorem encloses_gap (orderly : Orderly skips script) (member : gap ∈ script.gaps segments) :
    Encloses (joined segments) gap.path := by
  induction orderly generalizing segments with
  | mk places ordered own inner ih =>
      have whole := Orderly.mk places ordered own inner
      obtain ⟨segment, body, visited, inside | own_gap⟩ := mem_gaps_iff.mp member
      · obtain ⟨place, placed, holds⟩ := own.placed visited
        exact (whole.encloses_within visited _).trans (ih place placed _ holds.mem_bodies inside)
      · obtain ⟨thing, -, rfl⟩ := mem_gapOf_iff.mp own_gap
        exact whole.encloses_within visited _

/-- A visit is around its gaps. -/
theorem covers_gap (orderly : Orderly skips script) (member : (segment, body) ∈ script.visited)
    (gap_member : gap ∈ body.gaps (within segment segments) ∨
      gap ∈ gapOf (within segment segments) body.failure?) :
    Covers (joined (within segment segments)) gap.path := by
  rcases gap_member with inside | own_gap
  · exact .inr ((orderly.visited_orderly member).encloses_gap inside)
  · obtain ⟨thing, -, rfl⟩ := mem_gapOf_iff.mp own_gap
    exact .inl rfl

/-- No gap is around a path that is shown. -/
theorem not_encloses_shown (orderly : Orderly skips script) (shows : Shows segments script path)
    (member : gap ∈ script.gaps segments) : ¬ Encloses gap.path path := by
  intro encloses
  induction shows with
  | own shown =>
      obtain ⟨around, inner, visited, gap_member⟩ := mem_gaps_iff.mp member
      have covers := orderly.covers_gap visited gap_member
      obtain ⟨rfl, -⟩ := orderly.unique visited shown (.inr (covers.encloses encloses)) (.inl rfl)
      exact Encloses.irrefl _ (covers.encloses encloses)
  | inner shown stays inside ih =>
      obtain ⟨around, inner, visited, gap_member⟩ := mem_gaps_iff.mp member
      have covers := orderly.covers_gap visited gap_member
      obtain ⟨rfl, rfl⟩ := orderly.unique visited shown (.inr (covers.encloses encloses))
        (.inr ((orderly.visited_orderly shown).encloses inside.visits))
      rcases gap_member with deeper | own_gap
      · exact ih (orderly.visited_orderly shown) deeper encloses
      · obtain ⟨thing, fails, -⟩ := mem_gapOf_iff.mp own_gap
        exact stays ⟨thing, fails⟩

/-- A gap is kept, or inside of one that is. -/
theorem keeps_or_encloses (orderly : Orderly skips script)
    (member : gap ∈ script.gaps segments) :
    Keeps segments script gap ∨
      ∃ outer, Keeps segments script outer ∧ Encloses outer.path gap.path := by
  induction orderly generalizing segments with
  | mk places ordered own inner ih =>
      have whole := Orderly.mk places ordered own inner
      obtain ⟨segment, body, visited, inside | own_gap⟩ := mem_gaps_iff.mp member
      · by_cases replaced : body.IsReplaced
        · obtain ⟨thing, fails⟩ := replaced
          exact .inr ⟨_, .own visited fails, (whole.visited_orderly visited).encloses_gap inside⟩
        · obtain ⟨place, placed, holds⟩ := own.placed visited
          rcases ih place placed _ holds.mem_bodies inside with kept | ⟨outer, kept, encloses⟩
          · exact .inl (.inner visited replaced kept)
          · exact .inr ⟨outer, .inner visited replaced kept, encloses⟩
      · obtain ⟨thing, fails, rfl⟩ := mem_gapOf_iff.mp own_gap
        exact .inl (.own visited fails)

end Orderly

end AqlPipeline.Script
