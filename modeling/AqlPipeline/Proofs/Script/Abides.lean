import AqlPipeline.Proofs.Text.Brackets
import AqlPipeline.Render.Part

/-!
# Scripts that abide by rules

Rules say which errors a script may stop at, and whether the brackets that it writes have to match.
Brackets are followed along the script as closing brackets that are due.  A part that is visited
leaves them as they are, so that a marker may take its place.
-/

namespace AqlPipeline

open Text (Balanced nest)

/-- Whether an error is about the expression itself and ends the writing. -/
def Error.isOrdinary : Error → Bool
  | .notSupported _ | .invalidPath _ _ => false
  | _ => true

namespace Script

/-- What is asked of scripts. -/
structure Rules where
  /-- Whether brackets have to match. -/
  brackets : Prop
  /-- The errors that a script may stop at. -/
  allows : Error → Prop
  /-- It may stop at what is not supported, if that can be put into a marker. -/
  allows_notSupported : ∀ thing, (brackets → Balanced thing) → allows (.notSupported thing)
  /-- It may stop at every error about the expression itself. -/
  allows_ordinary : ∀ error, error.isOrdinary → allows error

namespace Rules

variable {rules : Rules}

/-- Whether a text may be written as a whole. -/
def Accepts (rules : Rules) (text : String) : Prop :=
  rules.brackets → Balanced text

/-- Whether a text leads from the closing brackets due in front of it to those due behind it. -/
def Leads (rules : Rules) (due : List Char) (text : String) (next : List Char) : Prop :=
  rules.brackets → nest due text.toList = some next

theorem accepts_of_balanced {text : String} (balanced : Balanced text) : rules.Accepts text :=
  fun _ => balanced

theorem Accepts.append {first second : String} (firsts : rules.Accepts first)
    (seconds : rules.Accepts second) : rules.Accepts (first ++ second) :=
  fun brackets => (firsts brackets).append (seconds brackets)

theorem Accepts.enclosed {opening text closing : String} (accepts : rules.Accepts text)
    (bracket : Char) (opens : nest [] opening.toList = some [bracket])
    (closes : nest [bracket] closing.toList = some []) :
    rules.Accepts (opening ++ text ++ closing) :=
  fun brackets => (accepts brackets).enclosed bracket opens closes

theorem Accepts.leads {text : String} (accepts : rules.Accepts text) (due : List Char) :
    rules.Leads due text due :=
  fun brackets => (accepts brackets).nest_eq due

theorem leads_of_nest {above after : List Char} {text : String}
    (read : nest above text.toList = some after) (due : List Char) :
    rules.Leads (above ++ due) text (after ++ due) :=
  fun _ => Text.nest_below read due

theorem leads_opening {text : String} {bracket : Char} (read : nest [] text.toList = some [bracket])
    (due : List Char) : rules.Leads due text (bracket :: due) :=
  leads_of_nest read due

theorem leads_closing {text : String} {bracket : Char} (read : nest [bracket] text.toList = some [])
    (due : List Char) : rules.Leads (bracket :: due) text due :=
  leads_of_nest read due

/-- A text leads on if its halves do. -/
theorem leads_append_iff {due next : List Char} {first second : String} :
    rules.Leads due (first ++ second) next ↔
      ∃ middle, rules.Leads due first middle ∧ rules.Leads middle second next := by
  constructor
  · intro leads
    by_cases brackets : rules.brackets
    · have read := leads brackets
      rw [String.toList_append, Text.nest_append] at read
      obtain ⟨middle, firsts, seconds⟩ := Option.bind_eq_some_iff.mp read
      exact ⟨middle, fun _ => firsts, fun _ => seconds⟩
    · exact ⟨due, fun matched => absurd matched brackets, fun matched => absurd matched brackets⟩
  · rintro ⟨middle, firsts, seconds⟩ brackets
    rw [String.toList_append, Text.nest_append, firsts brackets, Option.bind_some,
      seconds brackets]

theorem Leads.append {due middle next : List Char} {first second : String}
    (firsts : rules.Leads due first middle) (seconds : rules.Leads middle second next) :
    rules.Leads due (first ++ second) next :=
  leads_append_iff.mpr ⟨middle, firsts, seconds⟩

/-- Only the brackets of a text matter. -/
theorem Leads.congr {due next : List Char} {text other : String}
    (leads : rules.Leads due other next)
    (same : text.toList.filter Text.isBracket = other.toList.filter Text.isBracket) :
    rules.Leads due text next :=
  fun brackets => (Text.nest_congr same due).trans (leads brackets)

/-- Whether a step leads from what is due in front of it to what is due behind it. -/
def Takes (rules : Rules) (due : List Char) : Step → (next : List Char) → Prop
  | .write text, next | .delimit text, next => rules.Leads due text next
  | .bindNamed name _, next => rules.Accepts name ∧ next = due
  | .declare parameter, next =>
    rules.Accepts parameter.name ∧ rules.Accepts parameter.type.name ∧ next = due
  | _, next => next = due

end Rules

/-- A script that abides by rules, with what is due before and after it. -/
inductive Abides (rules : Rules) : (due : List Char) → Script → (next : List Char) → Prop where
  | done {due : List Char} : Abides rules due .done due
  | fail {due next : List Char} {error : Error} (allowed : rules.allows error) :
      Abides rules due (.fail error) next
  | step {due middle next : List Char} {first : Step} {rest : Script}
      (takes : rules.Takes due first middle) (rests : Abides rules middle rest next) :
      Abides rules due (.step first rest) next
  | visit {due next : List Char} (segment : String) {body rest : Script}
      (bodies : Abides rules due body due) (rests : Abides rules due rest next) :
      Abides rules due (.visit segment body rest) next

/-- A script that abides by rules wherever it stands, and leaves what is due as it is. -/
def Neutral (rules : Rules) (script : Script) : Prop :=
  ∀ due, Abides rules due script due

variable {rules : Rules}

namespace Abides

variable {due middle next : List Char}

theorem append {first second : Script} (firsts : Abides rules due first middle)
    (seconds : Abides rules middle second next) : Abides rules due (first ++ second) next := by
  induction firsts with
  | done => exact seconds
  | fail allowed => exact .fail allowed
  | step takes _ ih => exact .step takes (ih seconds)
  | visit segment bodies _ _ ih => exact .visit segment bodies (ih seconds)

theorem single {first : Step} (takes : rules.Takes due first next) :
    Abides rules due (.step first .done) next :=
  .step takes .done

theorem write {text : String} (leads : rules.Leads due text next) :
    Abides rules due (Script.write text) next :=
  single leads

theorem opens {text : String} {bracket : Char} (read : nest [] text.toList = some [bracket]) :
    Abides rules due (Script.write text) (bracket :: due) :=
  write (Rules.leads_opening read due)

theorem closes {text : String} {bracket : Char} (read : nest [bracket] text.toList = some []) :
    Abides rules (bracket :: due) (Script.write text) due :=
  write (Rules.leads_closing read due)

theorem ordinary {error : Error} (about : error.isOrdinary) :
    Abides rules due (.fail error) next :=
  .fail (rules.allows_ordinary error about)

theorem notSupported {thing : String} (accepts : rules.Accepts thing) :
    Abides rules due (.fail (.notSupported thing)) next :=
  .fail (rules.allows_notSupported thing accepts)

end Abides

namespace Neutral

theorem append {first second : Script} (firsts : Neutral rules first)
    (seconds : Neutral rules second) : Neutral rules (first ++ second) :=
  fun due => (firsts due).append (seconds due)

theorem nothing : Neutral rules .done :=
  fun _ => .done

theorem single {first : Step} (takes : ∀ due, rules.Takes due first due) :
    Neutral rules (.step first .done) :=
  fun due => .single (takes due)

theorem writes {text : String} (accepts : rules.Accepts text) :
    Neutral rules (Script.write text) :=
  fun due => .write (accepts.leads due)

theorem write {text : String} (balanced : Balanced text) : Neutral rules (Script.write text) :=
  writes (Rules.accepts_of_balanced balanced)

theorem delimit {text : String} (balanced : Balanced text) :
    Neutral rules (Script.delimit text) :=
  single (Rules.accepts_of_balanced balanced).leads

theorem breakLine : Neutral rules Script.breakLine :=
  single fun _ => rfl

theorem dedent : Neutral rules Script.dedent :=
  single fun _ => rfl

theorem openLines : Neutral rules Script.openLines :=
  append (single fun _ => rfl) breakLine

theorem closeLines : Neutral rules Script.closeLines :=
  dedent.append breakLine

theorem bindLiteral (value : Json) : Neutral rules (Script.bindLiteral value) :=
  single fun _ => rfl

theorem bindNamed {name : String} (accepts : rules.Accepts name) (value : Json) :
    Neutral rules (Script.bindNamed name value) :=
  single fun _ => ⟨accepts, rfl⟩

theorem enter (segment : String) {body : Script} (bodies : Neutral rules body) :
    Neutral rules (Script.enter segment body) :=
  fun due => .visit segment (bodies due) .done

/-- Something between brackets. -/
theorem enclosed {opening closing : String} {body : Script} (bodies : Neutral rules body)
    (bracket : Char) (opens : nest [] opening.toList = some [bracket])
    (closes : nest [bracket] closing.toList = some []) :
    Neutral rules (Script.write opening ++ body ++ Script.write closing) :=
  fun _ => ((Abides.opens opens).append (bodies _)).append (.closes closes)

/-- Something between brackets, behind something else. -/
theorem append_enclosed {opening closing : String} {first body : Script}
    (firsts : Neutral rules first) (bodies : Neutral rules body) (bracket : Char)
    (opens : nest [] opening.toList = some [bracket])
    (closes : nest [bracket] closing.toList = some []) :
    Neutral rules (first ++ Script.write opening ++ body ++ Script.write closing) :=
  fun _ => (((firsts _).append (.opens opens)).append (bodies _)).append (.closes closes)

end Neutral

namespace Abides

/-- Lines begin behind a bracket. -/
theorem opensLines {due : List Char} {text : String} {bracket : Char}
    (read : nest [] text.toList = some [bracket]) :
    Abides rules due (Script.write text ++ Script.openLines) (bracket :: due) :=
  (opens read).append (Neutral.openLines _)

/-- Lines end in front of a bracket. -/
theorem closesLines {due next : List Char} {lines : Script} {bracket : Char} {text : String}
    (abides : Abides rules due lines (bracket :: next))
    (read : nest [bracket] text.toList = some []) :
    Abides rules due (lines ++ Script.closeLines ++ Script.write text) next :=
  (abides.append (Neutral.closeLines _)).append (closes read)

end Abides

namespace Neutral

/-- Lines between brackets. -/
theorem enclosedLines {opening closing : String} {body : Script} (bodies : Neutral rules body)
    (bracket : Char) (opens : nest [] opening.toList = some [bracket])
    (closes : nest [bracket] closing.toList = some []) :
    Neutral rules (Script.write opening ++ Script.openLines ++ body ++ Script.closeLines ++
      Script.write closing) :=
  fun _ => ((Abides.opensLines opens).append (bodies _)).closesLines closes

/-! ## Sequences -/

theorem join {delimiter : Script} (delimiters : Neutral rules delimiter) {scripts : List Script}
    (neutral : ∀ script ∈ scripts, Neutral rules script) :
    Neutral rules (Script.join delimiter scripts) := by
  induction scripts with
  | nil => exact nothing
  | cons first others ih =>
      obtain ⟨firsts, rests⟩ := List.forall_mem_cons.mp neutral
      cases others with
      | nil => exact firsts
      | cons second others => exact (firsts.append delimiters).append (ih rests)

theorem visits (base : String) (index : Nat) {bodies : List Script}
    (neutral : ∀ body ∈ bodies, Neutral rules body) :
    ∀ visited ∈ Script.visits base index bodies, Neutral rules visited := by
  induction bodies generalizing index with
  | nil => nofun
  | cons body bodies ih =>
      obtain ⟨own, others⟩ := List.forall_mem_cons.mp neutral
      exact List.forall_mem_cons.mpr ⟨own.enter _, ih (index + 1) others⟩

theorem inLine (base : String) {delimiter : String} (balanced : Balanced delimiter)
    {bodies : List Script} (neutral : ∀ body ∈ bodies, Neutral rules body) :
    Neutral rules (Script.inLine base delimiter bodies) :=
  join (write balanced) (visits base 0 neutral)

theorem onLines (base : String) {delimiter : String} (balanced : Balanced delimiter)
    {bodies : List Script} (neutral : ∀ body ∈ bodies, Neutral rules body) :
    Neutral rules (Script.onLines base delimiter bodies) :=
  join (delimit balanced) (visits base 0 neutral)

end Neutral

end Script

/-! ## Parts -/

/-- Whether a part abides by rules in each of its places, and leaves no bracket open. -/
def Part.IsNeutral (rules : Script.Rules) (part : Part) : Prop :=
  ∀ placement, Script.Neutral rules (part.scriptAt placement)

namespace Part.IsNeutral

open Script (Neutral)

variable {rules : Script.Rules}

theorem visitAs {part : Part} (neutral : part.IsNeutral rules) (segment : String)
    (placement : Placement) : Neutral rules (part.visitAs segment placement) :=
  (neutral placement).enter segment

theorem visit {part : Part} (neutral : part.IsNeutral rules) (segment : String) :
    Neutral rules (part.visit segment) :=
  (neutral {}).enter segment

theorem scripts {parts : List Part} (neutral : ∀ part ∈ parts, part.IsNeutral rules) :
    ∀ script ∈ parts.map Part.script, Neutral rules script := by
  intro script member
  obtain ⟨part, inside, rfl⟩ := List.mem_map.mp member
  exact neutral part inside {}

theorem inLine (base : String) {parts : List Part}
    (neutral : ∀ part ∈ parts, part.IsNeutral rules) : Neutral rules (Part.inLine base parts) :=
  Neutral.inLine base (by decide) (scripts neutral)

end Part.IsNeutral

end AqlPipeline
