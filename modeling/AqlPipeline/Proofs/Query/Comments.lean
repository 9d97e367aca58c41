import AqlPipeline.Expr.Build
import AqlPipeline.Proofs.Query.PatchedSpans
import AqlPipeline.Proofs.Writer.Unwinding

/-!
# What follows a comment

The marker of a part that is not supported ends its own line.  Places in the source and groups of
variables do not: the first character behind such a comment is the first one that anything around it
writes next, and in compact text that is seldom a line break.
-/

namespace AqlPipeline

/-! ## Comments -/

/-- The text of an expression that is written as a comment. -/
def Expr.comment? : Expr → Option String
  | .variablesGroup locals _ =>
    some ("// variables -- " ++ ", ".intercalate (locals.map Parameter.name))
  | .debugMarker marker _ =>
    some (if marker.isClear then "// Clear debug info from " ++ marker.document
      else "// Debug to " ++ marker.document ++ " -- L" ++ toString marker.startLine ++ "C" ++
        toString marker.startColumn ++ " : L" ++ toString marker.endLine ++ "C" ++
        toString marker.endColumn)
  | _ => none

namespace Writer

/-- A visit that only writes a text adds it. -/
theorem run_enter_write (segment text : String) (before : Writer) :
    ∃ after, run (.enter segment (.write text)) before = .finished after ∧
      after.output = before.output.append text := by
  have kept : before.output.size ≤ (before.output.append text).size := by
    simp [Output.size, Output.append, String.utf8ByteSize_append]
  refine ⟨closed before ((before.enter segment).append text), ?_, rfl⟩
  rw [run_enter]
  exact leave_eq_closed rfl kept

theorem run_names (base : String) (index : Nat) (names : List String) (before : Writer) :
    ∃ after, run (Script.join (.write ", ")
        (Script.visits base index (names.map Script.write))) before = .finished after ∧
      after.output = before.output.append (", ".intercalate names) := by
  induction names generalizing index before with
  | nil => exact ⟨before, rfl, by simp [Output.append]⟩
  | cons name names ih =>
      obtain ⟨middle, ran, middle_eq⟩ :=
        run_enter_write (Script.numbered base index) name before
      cases names with
      | nil => exact ⟨middle, ran, by simp [middle_eq, Output.append]⟩
      | cons next names =>
          obtain ⟨after, others, after_eq⟩ := ih (index + 1) (middle.append ", ")
          refine ⟨after, ?_, ?_⟩
          · rw [List.map_cons, Script.visits, List.map_cons, Script.visits, Script.join,
              run_append, run_append, ran]
            · exact others
            · simp
          · rw [after_eq, String.intercalate_cons_cons]
            simp [append, onOutput, middle_eq, Output.append, String.append_assoc]

/-- A comment is written as it is. -/
theorem run_comment {part : Expr} {comment : String} (comments : part.comment? = some comment)
    (dialect : Dialect) (placement : Placement) (before : Writer) :
    ∃ after, run (part.script dialect placement) before = .finished after ∧
      after.output = before.output.append comment := by
  unfold Expr.comment? at comments
  split at comments
  · rename_i locals _
    cases comments
    obtain ⟨after, ran, after_eq⟩ :=
      run_names "Variables" 0 (locals.map Parameter.name) (before.append "// variables -- ")
    refine ⟨after, ?_, ?_⟩
    · rw [List.map_map] at ran
      exact ran
    · rw [after_eq]
      simp [append, onOutput, Output.append, String.append_assoc]
  · rename_i marker _
    cases comments
    rw [Expr.script, Render.debugMarker]
    split <;> exact ⟨_, rfl, rfl⟩
  · cases comments

end Writer

/-! ## Numbers of rows -/

/-- Whether a text is another one, or has something inserted into it. -/
def TakesIn (inserted text taken : String) : Prop :=
  taken = text ∨ ∃ front back, text = front ++ back ∧ taken = front ++ inserted ++ back

/-- What is inserted into a text of three parts is inserted into one of them.  If that is the last
one, it is behind its first character. -/
theorem Patch.parts {body inserted patched front own back : String} {place : Option Nat}
    (patch : Patch body inserted place patched) (body_eq : body = front ++ own ++ back) :
    ∃ front' own' back', patched = front' ++ own' ++ back' ∧ TakesIn inserted front front' ∧
      TakesIn inserted own own' ∧ back'.toList.head? = back.toList.head? := by
  cases patch with
  | unlimited absent => exact ⟨front, own, back, body_eq, .inl rfl, .inl rfl, rfl⟩
  | @limit start before after first parts_eq _ =>
      have text_eq : before ++ after = front ++ (own ++ back) := by
        rw [← parts_eq, body_eq, String.append_assoc]
      by_cases inFront : before.utf8ByteSize ≤ front.utf8ByteSize
      · obtain ⟨middle, rfl, rfl⟩ := Text.append_eq_append_of_le text_eq inFront
        refine ⟨before ++ inserted ++ middle, own, back, ?_, .inr ⟨before, middle, rfl, rfl⟩,
          .inl rfl, rfl⟩
        simp only [String.append_assoc]
      · obtain ⟨middle, rfl, behind_eq⟩ :=
          Text.append_eq_append_of_le text_eq.symm (Nat.le_of_not_le inFront)
        by_cases inside : middle.utf8ByteSize ≤ own.utf8ByteSize
        · obtain ⟨rest, rfl, rfl⟩ := Text.append_eq_append_of_le behind_eq.symm inside
          refine ⟨front, middle ++ inserted ++ rest, back, ?_, .inl rfl,
            .inr ⟨middle, rest, rfl, rfl⟩, rfl⟩
          simp only [String.append_assoc]
        · obtain ⟨begin, rfl, rfl⟩ :=
            Text.append_eq_append_of_le behind_eq (Nat.le_of_not_le inside)
          have some_begin : begin.toList ≠ [] := by
            intro empty
            rw [String.toList_eq_nil_iff.mp empty] at inside
            simp at inside
          refine ⟨front, own, begin ++ inserted ++ after, ?_, .inl rfl, .inl rfl, ?_⟩
          · simp only [String.append_assoc]
          · rw [String.append_assoc, String.toList_append,
              List.head?_append_of_ne_nil _ some_begin, String.toList_append,
              List.head?_append_of_ne_nil _ some_begin]

theorem Writer.finish_patch (writer : Writer) :
    ∃ place patched, Patch writer.output.text (insertedSkips writer.skips) place patched ∧
      writer.finish.text = writer.header ++ patched ++ writer.footer := by
  obtain ⟨place, patched, move, patch, -, moved_eq⟩ := writer.patchSkips_moves
  obtain ⟨output, trail, patched_eq, text_eq⟩ := foldl_patchSkip_eq writer.skips writer
  have same : output.text = patched := by
    have outputs := congrArg (·.output.text) (patched_eq.symm.trans moved_eq)
    exact outputs
  refine ⟨place, patched, patch, ?_⟩
  rw [finish_text, ← text_eq, String.ofList_toList, same]

/-- Whether a comment that was written behind some text stands in the query of a writer, with `next`
as the first character behind it.  The numbers of rows to leave out may have been inserted into the
text in front of the comment, or into the comment. -/
def Query.HasComment (query : Query) (writer : Writer) (before comment : String)
    (next : Option Char) : Prop :=
  ∃ front own back, query.text = writer.header ++ front ++ own ++ back ∧
    TakesIn (Writer.insertedSkips writer.skips) before front ∧
    TakesIn (Writer.insertedSkips writer.skips) comment own ∧ back.toList.head? = next

theorem Writer.hasComment {writer : Writer} {before comment back : String}
    (text_eq : writer.output.text = before ++ comment ++ back) :
    writer.finish.HasComment writer before comment
      (back.toList.head?.or writer.footer.toList.head?) := by
  obtain ⟨place, patched, patch, finish_eq⟩ := writer.finish_patch
  obtain ⟨front, own, rest, rfl, fronts, owns, rest_head⟩ := patch.parts text_eq
  refine ⟨front, own, rest ++ writer.footer, ?_, fronts, owns, ?_⟩
  · rw [finish_eq]
    simp only [String.append_assoc]
  · rw [String.toList_append, List.head?_append, rest_head]

/-! ## Comments of a query -/

section Visit

variable {segment : String} {body rest : Script} {frames : List Frame} {before last : Writer}
  (compact : before.output.pretty = false) (stays : Walk.Stays ⟨rest, frames, before⟩)
  (ended : Walk.unwind frames (Writer.run (.visit segment body rest) before) = .finished last)

include compact stays ended

/-- The comment of a marker is followed by the line break that is part of the marker. -/
theorem Writer.hasComment_marker {thing : String}
    (fails : body.failure? = some (.notSupported thing)) :
    last.finish.HasComment last (before.output.text ++ "\n")
      ("// NOT IMPLEMENTED: " ++ oneLine thing) (some '\n') := by
  have inner : (before.enter segment).output.pretty = false := compact
  obtain ⟨inside, ran⟩ := stopped_of_failure? inner fails
  have extended := ((leads_of_run body (before.enter segment)).2 inside thing ran).extended
  obtain ⟨replaced, recovered, finished⟩ := run_enter_of_stopped compact ran
  obtain ⟨more, last_eq, -⟩ := Walk.adds_of_visit compact finished stays ended
  have text_eq : last.output.text = before.output.text ++ "\n" ++
      ("// NOT IMPLEMENTED: " ++ oneLine thing) ++ ("\n" ++ more) := by
    rw [last_eq]
    change replaced.output.text ++ more = _
    rw [recover_text extended compact recovered, marker_eq]
    simp only [String.append_assoc]
  have found := hasComment text_eq
  rwa [String.toList_append, List.head?_append] at found

/-- Any other comment is followed by what is left to write. -/
theorem Writer.hasComment_written {dialect : Dialect} {part : Expr} {placement : Placement}
    {comment : String} (body_eq : body = part.script dialect placement)
    (comments : part.comment? = some comment) :
    last.finish.HasComment last before.output.text comment
      (((Walk.remaining ⟨rest, frames, before⟩).findSome? Script.firstChar?).or
        last.footer.toList.head?) := by
  subst body_eq
  obtain ⟨inside, ran, inside_eq⟩ := run_comment comments dialect placement (before.enter segment)
  obtain ⟨more, last_eq, more_head⟩ :=
    Walk.adds_of_visit compact (run_enter_of_finished compact ran) stays ended
  have text_eq : last.output.text = before.output.text ++ comment ++ more := by
    rw [last_eq]
    exact congrArg (·.text ++ more) inside_eq
  exact more_head ▸ hasComment text_eq

end Visit

/-- In a compact query, the comment of a part that is not supported is followed by a line break.
Any other comment is followed by the first character that anything around it writes next, or by what
is returned at the end of the query; line breaks that only pretty text has are not written.
Comments inside of a part that is replaced by its own marker are cut out with it. -/
theorem comments_followed_by {dialect : Dialect} {settings : Settings} {expr : Expr} {query : Query}
    (compact : settings.pretty = false)
    (compiled : Query.compile dialect settings expr = .ok query) {segment : String}
    {body rest : Script} {frames : List Frame} {before : Writer}
    (reached : Walk.Reaches (Walk.start dialect settings expr)
      ⟨.visit segment body rest, frames, before⟩) :
    ∃ last, Writer.run (.enter "" (expr.script dialect {})) (.start settings) = .finished last ∧
      (Walk.Stays ⟨rest, frames, before⟩ →
        (∀ thing, body.failure? = some (.notSupported thing) →
          query.HasComment last (before.output.text ++ "\n")
            ("// NOT IMPLEMENTED: " ++ Writer.oneLine thing) (some '\n')) ∧
        ∀ part placement comment, body = Expr.script dialect part placement →
          part.comment? = some comment →
          query.HasComment last before.output.text comment
            (((Walk.remaining ⟨rest, frames, before⟩).findSome? Script.firstChar?).or
              last.footer.toList.head?)) ∧
      (¬ Walk.Stays ⟨rest, frames, before⟩ →
        Walk.CutOut frames before.output.text last.output.text) := by
  obtain ⟨last, finished, rfl⟩ := Query.run_of_compile compiled
  have layered := reached.layered ⟨compact, trivial⟩
  have ended : Walk.unwind frames (Writer.run (.visit segment body rest) before) =
      .finished last := reached.outcome_eq.symm.trans finished
  refine ⟨last, finished, fun stays => ⟨?_, ?_⟩, ?_⟩
  · intro thing fails
    exact Writer.hasComment_marker layered.compact stays ended fails
  · intro part placement comment body_eq comments
    exact Writer.hasComment_written layered.compact stays ended body_eq comments
  · intro leaves
    exact Walk.cutOut_of_unwind layered.compact layered.stacked String.append_empty.symm
      (fun stays => leaves stays.behind) ended

/-- A group of one variable. -/
def Expr.oneVariable : Expr :=
  .variablesGroup [⟨"a", .named "Int32"⟩] .void

/-- Behind a comment at the end of the body comes what the query returns, on a line of its own. -/
theorem comments_followed_by_return :
    ∃ query last, Query.compile .aql {} .oneVariable = .ok query ∧
      query.text = "FOR x IN // variables -- a\nRETURN x" ∧
      query.HasComment last "" "// variables -- a" (some '\n') := by
  obtain ⟨query, compiled, text_eq⟩ : ∃ query, Query.compile .aql {} .oneVariable = .ok query ∧
      query.text = "FOR x IN // variables -- a\nRETURN x" := ⟨_, rfl, rfl⟩
  obtain ⟨written, ran, footer_eq⟩ : ∃ written,
      Writer.run (.enter "" (Expr.oneVariable.script .aql {})) (.start {}) = .finished written ∧
        written.footer.toList.head? = some '\n' := ⟨_, rfl, rfl⟩
  have reached : Walk.Reaches (Walk.start .aql {} .oneVariable)
      ⟨.visit "" (Expr.oneVariable.script .aql {}) .done, [], .start {}⟩ := .refl
  have stays : Walk.Stays ⟨.done, [], .start {}⟩ := by
    intro script member
    rw [List.mem_singleton.mp member]
    rfl
  have comments : Expr.oneVariable.comment? = some "// variables -- a" := rfl
  obtain ⟨last, finished, kept, -⟩ := comments_followed_by rfl compiled reached
  cases ran.symm.trans finished
  have found := (kept stays).2 .oneVariable {} _ rfl comments
  rw [footer_eq] at found
  exact ⟨query, written, compiled, text_eq, found⟩

/-- Behind the comment of a group in front of another statement comes that statement, in the same
line. -/
theorem comment_swallows_statement :
    ∃ query, Query.compile .aql {}
        (.stage "Select" (.source (.named "User"))
          (.function [⟨"x", .named "User"⟩]
            (.block [] [.oneVariable, .memberOf (.parameter ⟨"x", .named "User"⟩) "Age"
              (.named "Int32")] (.named "Int32")))) = .ok query ∧
      Expr.oneVariable.comment? = some "// variables -- a" ∧
      query.text = "FOR x IN User\nRETURN \x7b" ++ "// variables -- a" ++ "return x.Age;\x7d" := by
  refine ⟨_, rfl, ?_, ?_⟩ <;> rfl

end AqlPipeline
