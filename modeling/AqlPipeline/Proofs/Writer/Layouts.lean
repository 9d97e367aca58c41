import AqlPipeline.Proofs.Script.Tidy
import AqlPipeline.Proofs.Writer.Run

/-!
# Runs in both layouts

A tidy script ends in the same way whether its text is pretty or compact, and the two texts differ
in white space only.  Where a part is cut out again, a pretty text is cut at a size from before
spaces were dropped; by then, as many blanks have come in their place, and so it does not crash.
-/

namespace AqlPipeline.Writer

open Text Script

/-! ## Single steps -/

/-- The text that a step adds, but for white space. -/
def added (writer : Writer) : Step → String
  | .write text => text
  | .delimit delimiter => delimiter
  | .bindLiteral value => "@" ++ (writer.binds.register literalName value).1
  | .bindNamed name value => "@" ++ (writer.binds.registerNamed name value).1
  | .yieldIterator => "\nRETURN " ++ writer.iterator
  | .breakLine | .trim | .indent | .dedent | .declare _ | .project _ | .skip _ => ""

theorem withoutBlanks_breakLine (output : Output) :
    withoutBlanks output.breakLine.text.toList = withoutBlanks output.text.toList := by
  unfold Output.breakLine
  split
  · have blank : withoutBlanks ("\n" ++ Output.margin output.indentation).toList = [] := by
      apply withoutBlanks_eq_nil
      intro char member
      simp only [Output.margin, String.toList_append, String.toList_ofList, List.mem_append,
        List.mem_replicate] at member
      rcases member with line | ⟨-, rfl⟩
      · rw [List.mem_singleton.mp line]
        rfl
      · rfl
    rw [Output.append, String.toList_append, withoutBlanks_append, blank, List.append_nil]
  · rfl

theorem withoutBlanks_trimEnd (output : Output) :
    withoutBlanks output.trimEnd.text.toList = withoutBlanks output.text.toList := by
  unfold Output.trimEnd
  split
  · rw [String.toList_ofList]
    refine withoutBlanks_dropRightWhile _ fun char space => ?_
    rw [beq_iff_eq.mp space]
    rfl
  · rfl

theorem withoutBlanks_delimit (output : Output) (delimiter : String) :
    withoutBlanks (output.delimit delimiter).text.toList =
      withoutBlanks output.text.toList ++ withoutBlanks delimiter.toList := by
  unfold Output.delimit
  split
  · rw [withoutBlanks_breakLine, Output.append, String.toList_append, withoutBlanks_append,
      trimRight, String.toList_ofList, withoutBlanks_dropRightWhile _ fun _ blank => blank]
  · rw [Output.append, String.toList_append, withoutBlanks_append]

/-- In either layout, a step adds the same but for white space. -/
theorem withoutBlanks_apply (writer : Writer) (step : Step) :
    withoutBlanks (writer.apply step).output.text.toList =
      withoutBlanks writer.output.text.toList ++ withoutBlanks (writer.added step).toList := by
  have appended : ∀ text : String, withoutBlanks (writer.output.text ++ text).toList =
      withoutBlanks writer.output.text.toList ++ withoutBlanks text.toList := fun text => by
    rw [String.toList_append, withoutBlanks_append]
  cases step with
  | write | bindLiteral | bindNamed | yieldIterator => exact appended _
  | delimit delimiter => exact withoutBlanks_delimit writer.output delimiter
  | breakLine => exact (withoutBlanks_breakLine writer.output).trans (List.append_nil _).symm
  | trim => exact (withoutBlanks_trimEnd writer.output).trans (List.append_nil _).symm
  | indent | dedent | declare | project | skip => exact (List.append_nil _).symm

theorem breakLine_adds (output : Output) : ∃ more, output.breakLine.text = output.text ++ more := by
  unfold Output.breakLine
  split
  · exact ⟨_, rfl⟩
  · exact ⟨"", String.append_empty.symm⟩

/-- A step other than dropping spaces leaves the text before it as it is. -/
theorem apply_adds (writer : Writer) {step : Step} (kept : step ≠ .trim) :
    ∃ more, (writer.apply step).output.text = writer.output.text ++ more := by
  cases step with
  | trim => exact absurd rfl kept
  | write | bindLiteral | bindNamed | yieldIterator => exact ⟨_, rfl⟩
  | delimit delimiter =>
      change ∃ more, (writer.output.delimit delimiter).text = _
      unfold Output.delimit
      split
      · obtain ⟨more, line_eq⟩ := breakLine_adds (writer.output.append (trimRight delimiter))
        exact ⟨trimRight delimiter ++ more, by rw [line_eq, Output.append, String.append_assoc]⟩
      · exact ⟨delimiter, rfl⟩
  | breakLine => exact breakLine_adds writer.output
  | indent | dedent | declare | project | skip => exact ⟨"", String.append_empty.symm⟩

theorem reshaped_apply (writer : Writer) {step : Step} (kept : step ≠ .trim) :
    Reshaped writer.output.text.toList (writer.apply step).output.text.toList := by
  obtain ⟨more, text_eq⟩ := apply_adds writer kept
  rw [text_eq, String.toList_append]
  exact .append _ _

/-- A new line that is a level deeper makes up for the spaces dropped in front of it. -/
theorem reshaped_quote {output : Output} (pretty : output.pretty)
    (ready : Room.ready.Holds output) :
    Reshaped output.text.toList output.trimEnd.indent.breakLine.text.toList := by
  let chars := output.text.toList
  let line := '\n' :: List.replicate (4 * (output.indentation + 1)) ' '
  have parts : dropRightWhile (· == ' ') chars ++ chars.rtakeWhile (· == ' ') = chars :=
    List.rdropWhile_append_rtakeWhile ..
  have text_eq : output.trimEnd.indent.breakLine.text.toList =
      dropRightWhile (· == ' ') chars ++ (line ++ []) := by
    simp [Output.trimEnd, Output.indent, Output.breakLine, pretty, Output.append, Output.margin,
      line, chars]
  refine ⟨_, _, line, [], parts.symm, text_eq, fun _ => eq_space_of_mem, fun char member => ?_, ?_⟩
  · rcases List.mem_cons.mp member with rfl | space
    · exact .inr rfl
    · exact .inl (List.eq_of_mem_replicate space)
  · have room : (chars.rtakeWhile (· == ' ')).length ≤ 4 * output.indentation + 5 := ready
    rw [List.length_cons, List.length_replicate]
    omega

/-! ## Visits -/

/-- There are no spaces behind a marker. -/
theorem tight_marker (front : List Char) (message : String) :
    trailingSpaces (front ++ (marker message).toList) = 0 := by
  have line : EndsWithin 0 "\n" := by decide
  have ends : EndsWithin 0 (marker message) := line.append _
  rw [trailingSpaces_append _ ends.1]
  exact Nat.le_zero.mp ends.2

/-- A part of a reshaped text can be replaced by a marker, and all that was there before the part is
still there but for white space. -/
theorem recover?_of_reshaped {mark : Mark} {before : List Char} {inside : Writer}
    (thing : String) (size_eq : byteSize before = mark.size)
    (reshaped : Reshaped before inside.output.text.toList) :
    ∃ replaced, recover? mark inside thing = some replaced ∧
      withoutBlanks replaced.output.text.toList =
        withoutBlanks before ++ withoutBlanks (marker (oneLine thing)).toList ∧
      Reshaped before replaced.output.text.toList ∧ Room.tight.Holds replaced.output := by
  obtain ⟨start, more, inside_eq, start_size, start_eq, shaped⟩ := reshaped.cut
  have inside_text : inside.output.text = String.ofList start ++ String.ofList more := by
    rw [← String.ofList_append, ← inside_eq, String.ofList_toList]
  have mark_eq : (String.ofList start).utf8ByteSize = mark.size := by
    rw [utf8ByteSize_eq, String.toList_ofList, start_size, size_eq]
  refine ⟨_, recover?_of_size inside_text mark_eq thing, ?_⟩
  let kept : Output := { inside.output with text := String.ofList start }
  have text_eq : (withMarker mark inside kept thing).output.text.toList =
      start ++ (marker (oneLine thing)).toList := by
    change (String.ofList start ++ _).toList = _
    rw [String.toList_append, String.toList_ofList]
  refine ⟨?_, ?_, ?_⟩
  · rw [text_eq, withoutBlanks_append, start_eq]
  · exact text_eq ▸ shaped _
  · rw [Room.Holds, text_eq, tight_marker]
    exact Nat.zero_le 4

theorem size_le_of_reshaped {before after : Writer}
    (reshaped : Reshaped before.output.text.toList after.output.text.toList) :
    before.output.size ≤ after.output.size := by
  rw [Output.size, Output.size, utf8ByteSize_eq, utf8ByteSize_eq]
  exact reshaped.byteSize_le

/-! ## Writers that differ in layout -/

/-- A writer of pretty text and one of compact text that have written the same but for white space,
and know the same. -/
structure Matched (pretty compact : Writer) : Prop where
  /-- The first one breaks lines. -/
  isPretty : pretty.output.pretty = true
  /-- The second one does not. -/
  isCompact : compact.output.pretty = false
  /-- They have written the same characters other than white space. -/
  text : withoutBlanks pretty.output.text.toList = withoutBlanks compact.output.text.toList
  /-- They have the same bind variables. -/
  binds : pretty.binds = compact.binds
  /-- They know the same about the query. -/
  facts : pretty.facts = compact.facts
  /-- They fall back to the same iteration variable. -/
  defaultIterator : pretty.defaultIterator = compact.defaultIterator

namespace Matched

variable {pretty compact : Writer}

theorem added_eq (matched : Matched pretty compact) (step : Step) :
    pretty.added step = compact.added step := by
  cases step with
  | bindLiteral | bindNamed => simp only [added, matched.binds]
  | yieldIterator => simp only [added, iterator, matched.facts, matched.defaultIterator]
  | _ => rfl

/-- A step leaves the writers matched. -/
theorem apply (matched : Matched pretty compact) (step : Step) :
    Matched (pretty.apply step) (compact.apply step) where
  isPretty := (extends_apply pretty step).pretty.trans matched.isPretty
  isCompact := (extends_apply compact step).pretty.trans matched.isCompact
  text := by
    rw [withoutBlanks_apply, withoutBlanks_apply, matched.text, matched.added_eq]
  binds := by
    cases step with
    | bindLiteral value =>
        exact congrArg (fun binds => (binds.register literalName value).2) matched.binds
    | bindNamed name value =>
        exact congrArg (fun binds => (binds.registerNamed name value).2) matched.binds
    | _ => exact matched.binds
  facts := by
    cases step with
    | declare parameter =>
        exact congrArg (fun facts =>
          (facts.learnCollection parameter.type.name).learnIterator parameter.name) matched.facts
    | project typeName => exact congrArg (·.learnProjection typeName) matched.facts
    | _ => exact matched.facts
  defaultIterator := by
    cases step <;> exact matched.defaultIterator

theorem enter (matched : Matched pretty compact) (segment : String) :
    Matched (pretty.enter segment) (compact.enter segment) :=
  ⟨matched.isPretty, matched.isCompact, matched.text, matched.binds, matched.facts,
    matched.defaultIterator⟩

theorem closed (matched : Matched pretty compact) (before before' : Writer) :
    Matched (closed before pretty) (closed before' compact) :=
  ⟨matched.isPretty, matched.isCompact, matched.text, matched.binds, matched.facts,
    matched.defaultIterator⟩

/-- Parts at which writers have stopped are replaced in both of them. -/
theorem replaced {inside inside' replaced replaced' : Writer} (inner : Matched inside inside')
    {mark mark' : Mark} {thing : String}
    (recovered : recover? mark inside thing = some replaced)
    (recovered' : recover? mark' inside' thing = some replaced')
    (text : withoutBlanks replaced.output.text.toList =
      withoutBlanks replaced'.output.text.toList) : Matched replaced replaced' where
  isPretty := (recover?_pretty recovered).trans inner.isPretty
  isCompact := (recover?_pretty recovered').trans inner.isCompact
  text := text
  binds := by
    obtain ⟨-, -, rfl⟩ := recover?_eq_some recovered
    obtain ⟨-, -, rfl⟩ := recover?_eq_some recovered'
    exact inner.binds
  facts := by
    obtain ⟨-, -, rfl⟩ := recover?_eq_some recovered
    obtain ⟨-, -, rfl⟩ := recover?_eq_some recovered'
    exact inner.facts
  defaultIterator := by
    obtain ⟨-, -, rfl⟩ := recover?_eq_some recovered
    obtain ⟨-, -, rfl⟩ := recover?_eq_some recovered'
    exact inner.defaultIterator

end Matched

/-! ## Runs -/

/-- How the runs of a script in both layouts end: at the same point, with the spaces at the end of
the pretty text in check. -/
inductive Agree (next : Room) (before : List Char) : Outcome → Outcome → Prop where
  | finished {pretty compact : Writer} (matched : Matched pretty compact)
      (reshaped : Reshaped before pretty.output.text.toList) (holds : next.Holds pretty.output) :
      Agree next before (.finished pretty) (.finished compact)
  | stopped {pretty compact : Writer} (error : Error) (matched : Matched pretty compact)
      (reshaped : Reshaped before pretty.output.text.toList) :
      Agree next before (.stopped pretty error) (.stopped compact error)

namespace Agree

theorem after {next : Room} {first second : List Char} {pretty compact : Outcome}
    (agree : Agree next second pretty compact) (reshaped : Reshaped first second) :
    Agree next first pretty compact := by
  cases agree with
  | finished matched later holds => exact .finished matched (reshaped.trans later) holds
  | stopped error matched later => exact .stopped error matched (reshaped.trans later)

/-- Visits whose insides agree are left in agreement. -/
theorem close {middle : Room} {pretty compact : Writer} (matched : Matched pretty compact)
    (segment : String) {body : Script} {prettyInside compactInside : Outcome}
    (prettyEnds : Ends body (pretty.enter segment) prettyInside)
    (compactEnds : Ends body (compact.enter segment) compactInside)
    (agree : Agree middle pretty.output.text.toList prettyInside compactInside) :
    Agree middle pretty.output.text.toList (Writer.close (pretty.mark segment) prettyInside)
      (Writer.close (compact.mark segment) compactInside) := by
  cases agree with
  | finished inner reshaped holds =>
      obtain ⟨-, prettyAdded, -⟩ := prettyEnds
      obtain ⟨-, compactAdded, -⟩ := compactEnds
      rw [Writer.close, Writer.close,
        leave_eq_closed prettyAdded.segments (size_le_of_reshaped reshaped),
        leave_eq_closed compactAdded.segments (compactAdded.size_le matched.isCompact)]
      exact .finished (inner.closed pretty compact) reshaped holds
  | @stopped inside inside' error inner reshaped =>
      cases error with
      | notSupported thing =>
          obtain ⟨-, prettyAdded, -⟩ := prettyEnds
          obtain ⟨-, compactAdded, -⟩ := compactEnds
          have mark_eq : byteSize pretty.output.text.toList = (pretty.mark segment).size :=
            (utf8ByteSize_eq _).symm
          obtain ⟨replaced, recovered, solid_eq, shaped, tight⟩ :=
            recover?_of_reshaped thing mark_eq reshaped
          obtain ⟨replaced', recovered'⟩ :
              ∃ replaced', recover? (compact.mark segment) inside' thing = some replaced' :=
            ⟨_, recover?_eq compactAdded matched.isCompact thing⟩
          have solid_eq' : withoutBlanks replaced.output.text.toList =
              withoutBlanks replaced'.output.text.toList := by
            rw [solid_eq, recover_text compactAdded matched.isCompact recovered',
              String.toList_append, withoutBlanks_append, matched.text]
          have balanced := (recover?_segments recovered).trans prettyAdded.segments
          have balanced' := (recover?_segments recovered').trans compactAdded.segments
          have left := leave_eq_closed balanced (size_le_of_reshaped shaped)
          have left' := leave_eq_closed balanced'
            ((recover_extends compactAdded recovered').size_le matched.isCompact)
          simp only [Writer.close, recovered, recovered', left, left']
          exact .finished ((inner.replaced recovered recovered' solid_eq').closed ..) shaped
            (Room.holds_of_tight tight middle)
      | _ => exact .stopped _ inner reshaped

end Agree

/-- The runs of a tidy script in both layouts agree. -/
theorem run_agree {room next : Room} {script : Script} (tidy : Tidy room script next)
    {pretty compact : Writer} (matched : Matched pretty compact)
    (holds : room.Holds pretty.output) :
    Agree next pretty.output.text.toList (run script pretty) (run script compact) := by
  induction tidy generalizing pretty compact with
  | done implies => exact .finished matched (.refl _) (implies _ holds)
  | fail error => exact .stopped error matched (.refl _)
  | @step room middle next first rest kept leads _ ih =>
      exact (ih (matched.apply first) (leads pretty matched.isPretty holds)).after
        (reshaped_apply pretty kept)
  | quote ready _ ih =>
      -- of the three steps only the first takes anything away, and the last makes up for it
      have broken : Matched (((pretty.apply .trim).apply .indent).apply .breakLine)
          (((compact.apply .trim).apply .indent).apply .breakLine) :=
        ((matched.apply .trim).apply .indent).apply .breakLine
      have isPretty : pretty.output.trimEnd.indent.pretty :=
        ((matched.apply .trim).apply .indent).isPretty
      exact (ih broken (Tidy.ready_breakLine isPretty)).after
        (reshaped_quote matched.isPretty (ready _ holds))
  | @visit room middle next segment body rest _ _ bodyIh restIh =>
      have inside := bodyIh (matched.enter segment) holds
      have closed := inside.close matched segment (run_ends body (pretty.enter segment))
        (run_ends body (compact.enter segment))
      rw [run, run]
      generalize Writer.close (pretty.mark segment) _ = prettyOutcome at closed ⊢
      generalize Writer.close (compact.mark segment) _ = compactOutcome at closed ⊢
      cases closed with
      | finished between reshaped known => exact (restIh between known).after reshaped
      | stopped error between reshaped => exact .stopped error between reshaped

end AqlPipeline.Writer
