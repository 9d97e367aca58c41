import AqlPipeline.Proofs.Writer.Run
import AqlPipeline.Query

/-!
# Replacing what is not supported

In compact text, a visit that stops at something not supported leaves nothing behind but its marker,
its bind variables and the gaps.
-/

namespace AqlPipeline.Writer

theorem oneLine_breaks (text : String) :
    ∀ char ∈ (oneLine text).toList, char ≠ '\r' ∧ char ≠ '\n' := by
  intro char member
  simp only [oneLine, String.toList_ofList, List.mem_map] at member
  obtain ⟨original, _, rfl⟩ := member
  split
  · decide
  · rename_i plain
    simpa using plain

/-- A visit that stops at something not supported, whatever has been done inside of it, is replaced
by its marker: text, indentation, position and numbers of rows are as before, bind variables have
only been added, and the gaps are those inside of the visit and then its own. -/
theorem visit_replaced (before : Writer) (segment : String) (body : Script) {stopped : Writer}
    {thing : String} (compact : before.output.pretty = false)
    (failed : run body (before.enter segment) = .stopped stopped (.notSupported thing)) :
    ∃ after, run (.enter segment body) before = .finished after ∧
      after.output.text =
        before.output.text ++ ("\n// NOT IMPLEMENTED: " ++ oneLine thing ++ "\n") ∧
      (∀ char ∈ (oneLine thing).toList, char ≠ '\r' ∧ char ≠ '\n') ∧
      after.output.indentation = before.output.indentation ∧
      after.trail.segments = before.trail.segments ∧
      after.skips = before.skips ∧
      before.binds.entries <+: after.binds.entries ∧
      after.gaps =
        before.gaps ++ body.gaps (before.enter segment).trail.segments ++
          [⟨(before.enter segment).trail.path, oneLine thing⟩] := by
  have ended := run_ends body (before.enter segment)
  rw [failed] at ended
  obtain ⟨-, added, stopped_gaps⟩ := ended
  obtain ⟨replaced, recovered, finished⟩ := run_enter_of_stopped compact failed
  have skips_eq := recover_skips added recovered
  have text_eq := recover_text added compact recovered
  obtain ⟨kept, -, rfl⟩ := recover?_eq_some recovered
  refine ⟨_, finished, text_eq, oneLine_breaks thing, rfl, rfl, skips_eq, added.binds, ?_⟩
  change stopped.gaps ++ [⟨stopped.trail.path, oneLine thing⟩] = _
  rw [stopped_gaps, path_eq_joined stopped.trail, added.segments]
  rfl

/-- A part with a gap of its own, a number of rows and a bind variable. -/
theorem visit_replaced_nested :
    ∃ after,
      run (.enter "Body" (.visit "Left" (.fail (.notSupported "inner")) (.step (.skip 5)
          (.step (.bindLiteral .null) (.fail (.notSupported "two\nlines"))))))
        ((start {}).append "\nFILTER ") = .finished after ∧
      after.output.text = "\nFILTER \n// NOT IMPLEMENTED: two lines\n" ∧
      after.skips = [] ∧
      after.gaps = [⟨"Body.Left", "inner"⟩, ⟨"Body", "two lines"⟩] := by
  obtain ⟨after, finished, text_eq, -, -, -, skips_eq, -, gaps_eq⟩ :=
    visit_replaced ((start {}).append "\nFILTER ") "Body" (.visit "Left"
      (.fail (.notSupported "inner")) (.step (.skip 5)
        (.step (.bindLiteral .null) (.fail (.notSupported "two\nlines"))))) rfl rfl
  exact ⟨after, finished, text_eq.trans (by decide +kernel), skips_eq,
    gaps_eq.trans (by decide +kernel)⟩

end AqlPipeline.Writer
