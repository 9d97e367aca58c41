import AqlPipeline.Proofs.BindTable.Fresh
import AqlPipeline.Proofs.Json.Brackets
import AqlPipeline.Proofs.Script.Abides
import AqlPipeline.Proofs.Writer.Alike
import AqlPipeline.Proofs.Writer.Run

/-!
# Brackets of written text

A run of a script whose brackets match brings the closing brackets that are due in compact text from
where the script starts to where it ends.  A part that is cut out takes with it all that it opened:
what was due in front of it is due again, and the marker in its place does not change that.
-/

namespace AqlPipeline

open Text (Balanced nest)

/-- Brackets have to match, and also those in the words for what is not supported. -/
def Script.Rules.matching : Rules where
  brackets := True
  allows error := ∀ thing, error = .notSupported thing → Balanced thing
  allows_notSupported := by
    rintro thing balanced _ ⟨⟩
    exact balanced trivial
  allows_ordinary := by
    rintro _ ordinary thing rfl
    cases ordinary

/-! ## Names of bind variables -/

namespace BindTable

theorem balanced_paddedSuffix (number : Nat) : Balanced (paddedSuffix number) := by
  have plain : Text.Bracketless (paddedSuffix number).toList := by
    rw [paddedSuffix, String.toList_ofList]
    exact (Text.Bracketless.replicate (by decide) _).append (bracketless_toDigits number)
  exact plain.nests

variable {table : BindTable} {name : String}

theorem balanced_register (suffixes : ∀ number, Balanced (table.suffix number))
    (balanced : Balanced name) (value : Json) : Balanced (table.register name value).1 := by
  unfold register
  split
  · obtain ⟨number, name_eq⟩ := table.search_name name table.entries.length table.drawn
    change Balanced (table.search name table.entries.length table.drawn).1
    rw [name_eq]
    exact balanced.append (suffixes number)
  · exact balanced

theorem balanced_registerNamed (suffixes : ∀ number, Balanced (table.suffix number))
    (balanced : Balanced name) (value : Json) : Balanced (table.registerNamed name value).1 := by
  unfold registerNamed
  split
  · split
    · exact balanced
    · exact balanced_register suffixes balanced value
  · exact balanced

end BindTable

namespace Writer

/-! ## Single steps -/

/-- Brackets match in the names that a writer adds by itself: those it has learnt, the iteration
variable it falls back on, and the suffixes of bind variables. -/
structure NamesMatch (facts : Facts) (iterator : String) (suffix : Nat → String) : Prop where
  /-- The collection. -/
  collection : ∀ name ∈ facts.collection, Balanced name
  /-- The iteration variable. -/
  learnt : ∀ name ∈ facts.iterator, Balanced name
  /-- The iteration variable if none is declared. -/
  fallback : Balanced iterator
  /-- The suffixes. -/
  suffixes : ∀ number, Balanced (suffix number)

/-- A writer of compact text with closing brackets due behind it, and with names whose brackets
match. -/
structure Owes (due : List Char) (writer : Writer) : Prop where
  /-- The text is compact. -/
  compact : writer.output.pretty = false
  /-- Brackets in names match. -/
  names : NamesMatch writer.facts writer.defaultIterator writer.binds.suffix
  /-- The closing brackets that are due behind the text. -/
  text : nest [] writer.output.text.toList = some due

theorem NamesMatch.balanced_iterator {writer : Writer} {suffix : Nat → String}
    (names : NamesMatch writer.facts writer.defaultIterator suffix) :
    Balanced writer.iterator := by
  rw [iterator]
  cases known : writer.facts.iterator with
  | none => exact names.fallback
  | some name => exact names.learnt name known

/-- Learning the names of a parameter. -/
theorem NamesMatch.declare {facts : Facts} {iterator : String} {suffix : Nat → String}
    (names : NamesMatch facts iterator suffix) {collection learnt : String}
    (collections : Balanced collection) (learns : Balanced learnt) :
    NamesMatch ((facts.learnCollection collection).learnIterator learnt) iterator suffix where
  collection name member := by
    rcases Option.or_eq_some_iff.mp member with known | ⟨-, new⟩
    · exact names.collection name known
    · cases new
      exact collections
  learnt name member := by
    rcases Option.or_eq_some_iff.mp member with known | ⟨-, new⟩
    · exact names.learnt name known
    · cases new
      exact learns
  fallback := names.fallback
  suffixes := names.suffixes

namespace Owes

variable {due next : List Char} {writer : Writer}

theorem append (owes : Owes due writer) {text : String} (read : nest due text.toList = some next) :
    Owes next (writer.append text) where
  compact := owes.compact
  names := owes.names
  text := by
    change nest [] (writer.output.text ++ text).toList = some next
    rw [String.toList_append, Text.nest_append, owes.text, Option.bind_some, read]

theorem append_balanced (owes : Owes due writer) {text : String} (balanced : Balanced text) :
    Owes due (writer.append text) :=
  owes.append (balanced.nest_eq due)

/-- Referring to a variable that has just been bound. -/
theorem refer (owes : Owes due writer) {binds : BindTable} {name : String}
    (suffix_eq : binds.suffix = writer.binds.suffix) (balanced : Balanced name) :
    Owes due ({ writer with binds }.append ("@" ++ name)) := by
  have at_sign : Balanced "@" := by decide
  have bound : Owes due { writer with binds } :=
    ⟨owes.compact, suffix_eq.symm ▸ owes.names, owes.text⟩
  exact bound.append_balanced (at_sign.append balanced)

/-- A step leads a writer from what is due in front of it to what is due behind it. -/
theorem apply (owes : Owes due writer) {first : Step}
    (takes : Script.Rules.matching.Takes due first next) : Owes next (writer.apply first) := by
  cases first with
  | write text => exact owes.append (takes trivial)
  | delimit delimiter =>
      have compact_eq : writer.apply (.delimit delimiter) = writer.append delimiter := by
        simp [Writer.apply, onOutput, Writer.append, Output.delimit, owes.compact]
      rw [compact_eq]
      exact owes.append (takes trivial)
  | breakLine =>
      cases takes
      have compact_eq : writer.apply .breakLine = writer := by
        simp [Writer.apply, onOutput, Output.breakLine, owes.compact]
      rwa [compact_eq]
  | trim =>
      cases takes
      have compact_eq : writer.apply .trim = writer := by
        simp [Writer.apply, onOutput, Output.trimEnd, owes.compact]
      rwa [compact_eq]
  | indent | dedent | skip =>
      cases takes
      exact ⟨owes.compact, owes.names, owes.text⟩
  | bindLiteral value =>
      cases takes
      have literals : Balanced literalName := by decide
      exact owes.refer (BindTable.register_suffix _ _ value)
        (BindTable.balanced_register owes.names.suffixes literals value)
  | bindNamed name value =>
      obtain ⟨accepts, rfl⟩ := takes
      exact owes.refer (BindTable.registerNamed_suffix _ _ value)
        (BindTable.balanced_registerNamed owes.names.suffixes (accepts trivial) value)
  | declare parameter =>
      obtain ⟨learns, collections, rfl⟩ := takes
      exact ⟨owes.compact, owes.names.declare (collections trivial) (learns trivial), owes.text⟩
  | project typeName =>
      cases takes
      obtain ⟨collection, learnt, fallback, suffixes⟩ := owes.names
      exact ⟨owes.compact, ⟨collection, learnt, fallback, suffixes⟩, owes.text⟩
  | yieldIterator =>
      cases takes
      have returns : Balanced "\nRETURN " := by decide
      exact owes.append_balanced (returns.append owes.names.balanced_iterator)

end Owes

/-! ## Runs -/

/-- Line breaks are no brackets. -/
theorem filter_oneLine (text : String) :
    (oneLine text).toList.filter Text.isBracket = text.toList.filter Text.isBracket := by
  rw [oneLine, String.toList_ofList]
  induction text.toList with
  | nil => rfl
  | cons char rest ih =>
      have apart : Text.brackets.all fun char => !(char == '\r' || char == '\n') := by decide
      rw [List.map_cons, List.filter_cons, List.filter_cons, ih]
      split
      · rename_i breaks
        rw [Text.isBracket_eq_false apart breaks]
        rfl
      · rfl

theorem balanced_marker {thing : String} (balanced : Balanced thing) :
    Balanced (marker (oneLine thing)) := by
  have joined : Balanced (oneLine thing) := balanced.congr (filter_oneLine thing)
  have before : Balanced "\n// NOT IMPLEMENTED: " := by decide
  have behind : Balanced "\n" := by decide
  exact (before.append joined).append behind

/-- How a run ends that has closing brackets due at its end. -/
def EndsOwing (next : List Char) : Outcome → Prop
  | .finished after => Owes next after
  | .stopped after (.notSupported thing) =>
    NamesMatch after.facts after.defaultIterator after.binds.suffix ∧ Balanced thing
  | .stopped _ _ => True
  | .crashed _ => False

/-- Behind a visit the same is due as in front of it, also if a marker took its place. -/
theorem EndsOwing.close {due : List Char} {body : Script} {before : Writer} {segment : String}
    {outcome : Outcome} (inner : EndsOwing due outcome)
    (ends : Ends body (before.enter segment) outcome) (owes : Owes due before) :
    (∃ after, close (before.mark segment) outcome = .finished after ∧ Owes due after) ∨
      ∃ after error, close (before.mark segment) outcome = .stopped after error ∧
        error.isRecoverable = false := by
  cases outcome with
  | finished inside =>
      obtain ⟨-, added, -⟩ := ends
      obtain ⟨compact, names, text⟩ := inner
      have kept := added.size_le owes.compact
      exact .inl ⟨_, leave_eq_closed added.segments kept, compact, names, text⟩
  | stopped inside error =>
      cases error with
      | notSupported thing =>
          obtain ⟨-, added, -⟩ := ends
          obtain ⟨names, balanced⟩ := inner
          have recovered := recover?_eq added owes.compact thing
          have extended := recover_extends added recovered
          have balanced' := (recover?_segments recovered).trans added.segments
          have left := leave_eq_closed balanced' (extended.size_le owes.compact)
          simp only [Writer.close, recovered]
          refine .inl ⟨_, left, extended.pretty.trans owes.compact, names, ?_⟩
          exact (owes.append_balanced (balanced_marker balanced)).text
      | _ => exact .inr ⟨inside, _, rfl, rfl⟩
  | crashed inside => exact inner.elim

/-- A run leads from what is due in front of the script to what is due behind it. -/
theorem run_endsOwing {due next : List Char} {script : Script}
    (abides : script.Abides .matching due next) {before : Writer} (owes : Owes due before) :
    EndsOwing next (run script before) := by
  induction abides generalizing before with
  | done => exact owes
  | @fail _ _ error allowed =>
      cases error with
      | notSupported thing => exact ⟨owes.names, allowed thing rfl⟩
      | _ => trivial
  | step takes _ ih => exact ih (owes.apply takes)
  | @visit _ _ segment body rest _ _ bodyIh restIh =>
      have entered : EndsOwing _ (run body (before.enter segment)) :=
        bodyIh ⟨owes.compact, owes.names, owes.text⟩
      rw [run]
      rcases entered.close (run_ends body (before.enter segment)) owes with
        ⟨after, closed_eq, afterOwes⟩ | ⟨after, error, closed_eq, fatal⟩
      · rw [closed_eq]
        exact restIh afterOwes
      · rw [closed_eq]
        cases error with
        | notSupported thing => cases fatal
        | _ => trivial

end Writer

end AqlPipeline
