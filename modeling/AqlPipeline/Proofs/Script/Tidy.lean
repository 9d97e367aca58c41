import AqlPipeline.Proofs.Text.Blanks
import AqlPipeline.Render.Part
import AqlPipeline.Writer

/-!
# Scripts that keep spaces in check

In pretty text, a lambda that is passed on drops the spaces in front of it before it breaks the
line.  What is lost that way is made up for by the new line if there were not too many spaces.  A
script is tidy if that is so wherever it does this, given what is known about the spaces at its
beginning.
-/

namespace AqlPipeline

/-! ## Spaces at the end of a text -/

/-- What is known about the spaces at the end of a pretty text. -/
inductive Room where
  /-- There are at most four, so that a line break makes up for them and for one more. -/
  | tight
  /-- A line break one level deeper has at least as many blanks. -/
  | ready
  /-- Nothing is known. -/
  | any
  deriving DecidableEq, Repr

namespace Room

/-- Whether what is known is so. -/
def Holds (output : Output) : Room → Prop
  | .tight => Text.trailingSpaces output.text.toList ≤ 4
  | .ready => Text.trailingSpaces output.text.toList ≤ 4 * output.indentation + 5
  | .any => True

theorem holds_of_tight {output : Output} (tight : Room.tight.Holds output) (room : Room) :
    room.Holds output := by
  cases room with
  | tight => exact tight
  | ready => exact Nat.le_trans tight (by omega)
  | any => trivial

/-- Whether what is known is no less than what else is. -/
def Implies (room next : Room) : Prop :=
  ∀ output, room.Holds output → next.Holds output

theorem Implies.refl (room : Room) : room.Implies room :=
  fun _ holds => holds

theorem Implies.trans {first second third : Room} (earlier : first.Implies second)
    (later : second.Implies third) : first.Implies third :=
  fun output holds => later output (earlier output holds)

theorem implies_any (room : Room) : room.Implies .any :=
  fun _ _ => trivial

end Room

/-- Whether a text ends with at most a number of spaces behind something else. -/
def Text.EndsWithin (spaces : Nat) (text : String) : Prop :=
  (∃ char ∈ text.toList, char ≠ ' ') ∧ trailingSpaces text.toList ≤ spaces

instance (spaces : Nat) (text : String) : Decidable (Text.EndsWithin spaces text) :=
  -- looks through the characters of the text, not through all that there are
  @instDecidableAnd _ _ (List.decidableBEx _ _) (Nat.decLe _ _)

theorem Text.EndsWithin.append {spaces : Nat} {text : String} (ends : EndsWithin spaces text)
    (front : String) : EndsWithin spaces (front ++ text) := by
  obtain ⟨⟨char, member, other⟩, within⟩ := ends
  refine ⟨⟨char, by simp [member], other⟩, ?_⟩
  rw [String.toList_append, trailingSpaces_append _ ⟨char, member, other⟩]
  exact within

/-! ## Tidy scripts -/

/-- Whether a step leads from what is known to what else is known. -/
def Step.Leads (first : Step) (room next : Room) : Prop :=
  ∀ writer : Writer, writer.output.pretty → room.Holds writer.output →
    next.Holds (writer.apply first).output

/-- A script that drops spaces only where a line break makes up for them, with what is known before
and after it.  After a part that is replaced by a marker, there are no spaces at the end. -/
inductive Script.Tidy : Room → Script → Room → Prop where
  | done {room next : Room} (implies : room.Implies next) : Tidy room .done next
  | fail {room next : Room} (error : Error) : Tidy room (.fail error) next
  | step {room middle next : Room} {first : Step} {rest : Script} (kept : first ≠ .trim)
      (leads : first.Leads room middle) (rests : Tidy middle rest next) :
      Tidy room (.step first rest) next
  | quote {room next : Room} {rest : Script} (ready : room.Implies .ready)
      (rests : Tidy .ready rest next) :
      Tidy room (.step .trim (.step .indent (.step .breakLine rest))) next
  | visit {room middle next : Room} (segment : String) {body rest : Script}
      (bodies : Tidy room body middle) (rests : Tidy middle rest next) :
      Tidy room (.visit segment body rest) next

namespace Script.Tidy

variable {room middle next : Room}

theorem weaken {script : Script} {room' next' : Room} (tidy : Tidy room script next)
    (before : room'.Implies room) (after : next.Implies next') : Tidy room' script next' := by
  induction tidy generalizing room' next' with
  | done implies => exact .done ((before.trans implies).trans after)
  | fail error => exact .fail error
  | step kept leads _ ih =>
      exact .step kept (fun writer pretty holds => leads writer pretty (before _ holds))
        (ih (.refl _) after)
  | quote ready _ ih => exact .quote (before.trans ready) (ih (.refl _) after)
  | visit segment _ _ bodyIh restIh =>
      exact .visit segment (bodyIh before (.refl _)) (restIh (.refl _) after)

theorem loosen {script : Script} (tidy : Tidy room script next) : Tidy room script .any :=
  tidy.weaken (.refl room) next.implies_any

theorem append {first second : Script} (firsts : Tidy room first middle)
    (seconds : Tidy middle second next) : Tidy room (first ++ second) next := by
  induction firsts with
  | done implies => exact seconds.weaken implies (.refl next)
  | fail error => exact .fail error
  | step kept leads _ ih => exact .step kept leads (ih seconds)
  | quote ready _ ih => exact .quote ready (ih seconds)
  | visit segment bodies _ _ ih => exact .visit segment bodies (ih seconds)

/-! ## Single steps -/

theorem nothing : Tidy room .done room :=
  .done (.refl room)

theorem single {first : Step} (kept : first ≠ .trim) (leads : first.Leads room next) :
    Tidy room (.step first .done) next :=
  .step kept leads nothing

theorem write (text : String) : Tidy room (write text) .any :=
  single nofun fun _ _ _ => trivial

theorem write_empty : Tidy room (Script.write "") room := by
  refine single nofun fun writer _ holds => ?_
  change room.Holds (writer.output.append "")
  simpa [Output.append] using holds

theorem write_tight {text : String} (ends : Text.EndsWithin 4 text) :
    Tidy room (Script.write text) .tight := by
  refine single nofun fun writer _ _ => ?_
  change Text.trailingSpaces (writer.output.text ++ text).toList ≤ 4
  rw [String.toList_append, Text.trailingSpaces_append _ ends.1]
  exact ends.2

theorem write_ready {text : String} (ends : Text.EndsWithin 5 text) :
    Tidy room (Script.write text) .ready := by
  refine single nofun fun writer _ _ => ?_
  change Text.trailingSpaces (writer.output.text ++ text).toList ≤ 4 * writer.output.indentation + 5
  rw [String.toList_append, Text.trailingSpaces_append _ ends.1]
  exact Nat.le_trans ends.2 (Nat.le_add_left ..)

theorem write_space : Tidy .tight (Script.write " ") .ready := by
  refine single nofun fun writer _ tight => ?_
  change Text.trailingSpaces (writer.output.text ++ " ").toList ≤ 4 * writer.output.indentation + 5
  have more : Text.trailingSpaces (writer.output.text ++ " ").toList =
      Text.trailingSpaces writer.output.text.toList + 1 := by
    rw [String.toList_append]
    change (List.rtakeWhile _ (writer.output.text.toList ++ [' '])).length = _
    rw [List.rtakeWhile_concat_pos _ _ _ rfl, List.length_append]
    rfl
  have few : Text.trailingSpaces writer.output.text.toList ≤ 4 := tight
  omega

/-- A new line has as many spaces as its level asks for. -/
theorem trailingSpaces_breakLine {output : Output} (pretty : output.pretty) :
    Text.trailingSpaces output.breakLine.text.toList = 4 * output.indentation := by
  have text_eq : output.breakLine.text.toList =
      output.text.toList ++ '\n' :: List.replicate (4 * output.indentation) ' ' := by
    simp [Output.breakLine, pretty, Output.append, Output.margin]
  rw [text_eq, Text.trailingSpaces_append _ ⟨'\n', List.mem_cons_self, by decide⟩,
    Text.trailingSpaces_replicate]

theorem breakLine_indentation (output : Output) :
    output.breakLine.indentation = output.indentation := by
  unfold Output.breakLine
  split <;> rfl

/-- A new line leaves room for one that is a level deeper. -/
theorem ready_breakLine {output : Output} (pretty : output.pretty) :
    Room.ready.Holds output.breakLine := by
  rw [Room.Holds, trailingSpaces_breakLine pretty, breakLine_indentation]
  omega

theorem breakLine : Tidy room Script.breakLine .ready :=
  single nofun fun _ pretty _ => ready_breakLine pretty

theorem delimit (delimiter : String) : Tidy room (Script.delimit delimiter) .ready := by
  refine single nofun fun writer pretty _ => ?_
  let trimmed := writer.output.append (Text.trimRight delimiter)
  have output_eq : (writer.apply (.delimit delimiter)).output = trimmed.breakLine := by
    change writer.output.delimit delimiter = _
    simp [Output.delimit, pretty, trimmed]
  have trimmedPretty : trimmed.pretty := pretty
  rw [output_eq]
  exact ready_breakLine trimmedPretty

theorem indent : Tidy room Script.indent .any :=
  single nofun fun _ _ _ => trivial

theorem dedent : Tidy room Script.dedent .any :=
  single nofun fun _ _ _ => trivial

theorem openLines : Tidy room Script.openLines .ready :=
  indent.append breakLine

/-- A brace, and what is in it on lines of its own. -/
theorem openBrace : Tidy room (Script.write "\x7b" ++ Script.openLines) .ready :=
  (write _).append openLines

theorem closeLines : Tidy room Script.closeLines .ready :=
  dedent.append breakLine

theorem bindLiteral (value : Json) : Tidy room (Script.bindLiteral value) .any :=
  single nofun fun _ _ _ => trivial

theorem bindNamed (name : String) (value : Json) : Tidy room (Script.bindNamed name value) .any :=
  single nofun fun _ _ _ => trivial

theorem enter (segment : String) {body : Script} (bodies : Tidy room body next) :
    Tidy room (Script.enter segment body) next :=
  .visit segment bodies nothing

/-! ## Sequences -/

/-- The delimiter brings back what is known in front of each script. -/
theorem join {delimiter : Script} (implies : room.Implies next)
    (delimiters : Tidy next delimiter room) {scripts : List Script}
    (tidy : ∀ script ∈ scripts, Tidy room script next) :
    Tidy room (Script.join delimiter scripts) next := by
  induction scripts with
  | nil => exact .done implies
  | cons first others ih =>
      obtain ⟨firsts, rests⟩ := List.forall_mem_cons.mp tidy
      cases others with
      | nil => exact firsts
      | cons second others => exact (firsts.append delimiters).append (ih rests)

theorem visits (base : String) (index : Nat) {bodies : List Script}
    (tidy : ∀ body ∈ bodies, Tidy room body next) :
    ∀ visited ∈ Script.visits base index bodies, Tidy room visited next := by
  induction bodies generalizing index with
  | nil => nofun
  | cons body bodies ih =>
      obtain ⟨own, others⟩ := List.forall_mem_cons.mp tidy
      exact List.forall_mem_cons.mpr ⟨own.enter _, ih (index + 1) others⟩

theorem inLine (base : String) {delimiter : String} (ends : Text.EndsWithin 5 delimiter)
    {bodies : List Script} (tidy : ∀ body ∈ bodies, Tidy .ready body .any) :
    Tidy .ready (Script.inLine base delimiter bodies) .any :=
  join (Room.implies_any _) (write_ready ends) (visits base 0 tidy)

theorem onLines (base delimiter : String) {bodies : List Script}
    (implies : Room.ready.Implies next) (tidy : ∀ body ∈ bodies, Tidy .ready body next) :
    Tidy .ready (Script.onLines base delimiter bodies) next :=
  join implies (delimit delimiter) (visits base 0 tidy)

end Script.Tidy

end AqlPipeline
