import AqlPipeline.Proofs.Writer.Layouts

/-!
# What a run cannot take back

In either layout, a run drops nothing of a text that ends with something other than a space: spaces
are dropped at the end only, and a part that is replaced starts behind what was there before it.
-/

namespace AqlPipeline

namespace Text

/-- Spaces are dropped behind a text that has none at its end. -/
theorem dropSpaces_append {front : List Char} (tight : trailingSpaces front = 0)
    (more : List Char) :
    ∃ rest, dropRightWhile (· == ' ') (front ++ more) = front ++ rest := by
  have kept : front.reverse.dropWhile (· == ' ') = front.reverse := by
    have none_taken : front.reverse.takeWhile (· == ' ') = [] := by
      simpa [trailingSpaces, List.rtakeWhile] using tight
    have parts : front.reverse.takeWhile (· == ' ') ++ front.reverse.dropWhile (· == ' ') =
        front.reverse := List.takeWhile_append_dropWhile
    rwa [none_taken, List.nil_append] at parts
  rw [dropRightWhile, List.reverse_append, List.dropWhile_append]
  split
  · exact ⟨[], by rw [kept, List.reverse_reverse, List.append_nil]⟩
  · exact ⟨_, by rw [List.reverse_append, List.reverse_reverse]⟩

end Text

namespace Writer

variable {front : String} {before inside : Writer}

/-- Whether what has been written begins with a text. -/
def Keeps (front : String) (writer : Writer) : Prop :=
  ∃ more, writer.output.text = front ++ more

theorem Keeps.refl (writer : Writer) : Keeps writer.output.text writer :=
  ⟨"", String.append_empty.symm⟩

theorem Keeps.size_le (keeps : Keeps front before) : front.utf8ByteSize ≤ before.output.size := by
  obtain ⟨more, text_eq⟩ := keeps
  rw [Output.size, text_eq, String.utf8ByteSize_append]
  exact Nat.le_add_right ..

/-- A step keeps a text without spaces at its end. -/
theorem Keeps.apply (tight : Text.EndsWithin 0 front) (keeps : Keeps front before) (step : Step) :
    Keeps front (before.apply step) := by
  obtain ⟨more, text_eq⟩ := keeps
  by_cases trims : step = .trim
  · subst trims
    change ∃ more, (Output.trimEnd before.output).text = front ++ more
    unfold Output.trimEnd
    split
    · obtain ⟨rest, kept⟩ := Text.dropSpaces_append (Nat.le_zero.mp tight.2) more.toList
      refine ⟨String.ofList rest, ?_⟩
      rw [text_eq, String.toList_append, kept, String.ofList_append, String.ofList_toList]
    · exact ⟨more, text_eq⟩
  · obtain ⟨rest, added⟩ := apply_adds before trims
    exact ⟨more ++ rest, by rw [added, text_eq, String.append_assoc]⟩

/-- So does the replacement of a part that starts behind it. -/
theorem Keeps.recover {mark : Mark} {thing : String} {replaced : Writer}
    (keeps : Keeps front inside) (behind : front.utf8ByteSize ≤ mark.size)
    (recovered : recover? mark inside thing = some replaced) : Keeps front replaced := by
  obtain ⟨more, text_eq⟩ := keeps
  obtain ⟨kept, cut, rfl⟩ := recover?_eq_some recovered
  obtain ⟨-, back, inside_eq, whole⟩ := text_of_truncate? cut
  have begins : ∃ rest, kept.text = front ++ rest := by
    rcases whole with rfl | size_eq
    · exact ⟨more, by rw [← text_eq, inside_eq, String.append_empty]⟩
    · obtain ⟨rest, kept_eq, -⟩ := Text.append_eq_append_of_le (text_eq.symm.trans inside_eq)
        (Nat.le_trans behind (Nat.le_of_eq size_eq.symm))
      exact ⟨rest, kept_eq⟩
  obtain ⟨rest, kept_eq⟩ := begins
  exact ⟨rest ++ marker (oneLine thing), by rw [← String.append_assoc, ← kept_eq]; rfl⟩

theorem leave_output (mark : Mark) (writer : Writer) :
    (leave mark writer).writer.output = writer.output := by
  obtain ⟨trail, writer_eq⟩ := leave_writer mark writer
  rw [writer_eq]

/-- The end of a visit keeps what is in front of the visit. -/
theorem Keeps.close {mark : Mark} {outcome : Outcome} (keeps : Keeps front outcome.writer)
    (behind : front.utf8ByteSize ≤ mark.size) : Keeps front (close mark outcome).writer := by
  cases outcome with
  | finished writer => rwa [Writer.close, Keeps, leave_output]
  | stopped writer error =>
      cases error with
      | notSupported thing =>
          rw [Writer.close]
          cases recovered : recover? mark writer thing with
          | none => exact keeps
          | some replaced =>
              rw [Keeps, leave_output]
              exact Keeps.recover keeps behind recovered
      | _ => exact keeps
  | crashed writer => exact keeps

/-- However a run ends, it keeps a text without spaces at its end. -/
theorem Keeps.run (tight : Text.EndsWithin 0 front) (script : Script)
    (keeps : Keeps front before) : Keeps front (run script before).writer := by
  induction script generalizing before with
  | done => exact keeps
  | fail error => exact keeps
  | step first rest ih => exact ih (keeps.apply tight first)
  | visit segment body rest bodyIh restIh =>
      have inside : Keeps front (Writer.run body (before.enter segment)).writer := bodyIh keeps
      have closed : Keeps front (Writer.close (before.mark segment)
          (Writer.run body (before.enter segment))).writer := inside.close keeps.size_le
      rw [Writer.run]
      cases ended : Writer.close (before.mark segment)
          (Writer.run body (before.enter segment)) with
      | finished middle =>
          rw [ended] at closed
          exact restIh closed
      | stopped middle error | crashed middle =>
          rw [ended] at closed
          exact closed

end Writer

end AqlPipeline
