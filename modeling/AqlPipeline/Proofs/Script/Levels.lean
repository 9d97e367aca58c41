import AqlPipeline.Render.Part

/-!
# Scripts that come back to their level

Levels of indentation are followed along a script as how much deeper it is than where it began.  A
script never goes back further than that.  A part that is visited begins anew, and may end deeper
than it began if it cannot be replaced by a marker, as a marker takes back its levels.
-/

namespace AqlPipeline

/-- Whether a step leaves the level of indentation as it is. -/
def Step.isLevel : Step → Bool
  | .indent | .dedent => false
  | _ => true

namespace Script

/-- A script inside of a visit that ends `rise` levels deeper than it began, with how much deeper
than there it is before and after the script. -/
inductive Climbs : (rise height : Nat) → Script → (next : Nat) → Prop where
  | done {rise height : Nat} : Climbs rise height .done height
  /-- The marker that takes the place of the visit is on the level of its beginning. -/
  | fail {height next : Nat} (error : Error) : Climbs 0 height (.fail error) next
  | step {rise height next : Nat} {first : Step} {rest : Script} (level : first.isLevel)
      (rests : Climbs rise height rest next) : Climbs rise height (.step first rest) next
  | indent {rise height next : Nat} {rest : Script} (rests : Climbs rise (height + 1) rest next) :
      Climbs rise height (.step .indent rest) next
  | dedent {rise height next : Nat} {rest : Script} (rests : Climbs rise height rest next) :
      Climbs rise (height + 1) (.step .dedent rest) next
  | visit {rise height inner next : Nat} (segment : String) {body rest : Script}
      (bodies : Climbs inner 0 body inner) (rests : Climbs rise (height + inner) rest next) :
      Climbs rise height (.visit segment body rest) next

/-- A script that comes back to the level it begins at. -/
def Level (rise : Nat) (script : Script) : Prop :=
  ∀ height, Climbs rise height script height

namespace Climbs

variable {rise height middle next : Nat}

theorem append {first second : Script} (firsts : Climbs rise height first middle)
    (seconds : Climbs rise middle second next) : Climbs rise height (first ++ second) next := by
  induction firsts with
  | done => exact seconds
  | fail error => exact .fail error
  | step level _ ih => exact .step level (ih seconds)
  | indent _ ih => exact .indent (ih seconds)
  | dedent _ ih => exact .dedent (ih seconds)
  | visit segment bodies _ _ ih => exact .visit segment bodies (ih seconds)

/-- What keeps the level goes on from any height. -/
theorem append_level {first second : Script} (firsts : Climbs rise height first next)
    (seconds : Level rise second) : Climbs rise height (first ++ second) next :=
  firsts.append (seconds next)

theorem openLines : Climbs rise height Script.openLines (height + 1) :=
  .indent (.step rfl .done)

theorem closeLines : Climbs rise (height + 1) Script.closeLines height :=
  .dedent (.step rfl .done)

theorem dedented : Climbs rise (height + 1) Script.dedent height :=
  .dedent .done

theorem single {first : Step} (level : first.isLevel) :
    Climbs rise height (.step first .done) height :=
  .step level .done

/-- Lines are opened behind a text. -/
theorem opened (rise height : Nat) (text : String) :
    Climbs rise height (write text ++ Script.openLines) (height + 1) :=
  (single rfl).append openLines

/-- Lines are closed in front of a text. -/
theorem closed {lines : Script} (inside : Climbs rise height lines (next + 1)) (text : String) :
    Climbs rise height (lines ++ Script.closeLines ++ write text) next :=
  (inside.append closeLines).append (single rfl)

/-- Behind the visit of a part, it is deeper by what the part has left. -/
theorem enter {inner : Nat} (segment : String) {body : Script}
    (bodies : Climbs inner 0 body inner) :
    Climbs rise height (Script.enter segment body) (height + inner) :=
  .visit segment bodies .done

end Climbs

/-- The visits of the items of a sequence are visits. -/
theorem exists_enter_of_mem {base : String} {index : Nat} {bodies : List Script} {visited : Script}
    (member : visited ∈ Script.visits base index bodies) :
    ∃ segment, ∃ body ∈ bodies, visited = Script.enter segment body := by
  induction bodies generalizing index with
  | nil => cases member
  | cons body bodies ih =>
      rcases List.mem_cons.mp member with rfl | later
      · exact ⟨_, body, List.mem_cons_self, rfl⟩
      · obtain ⟨segment, other, inside, eq⟩ := ih later
        exact ⟨segment, other, List.mem_cons_of_mem _ inside, eq⟩

namespace Level

variable {rise : Nat}

@[grind ←] theorem nothing : Level rise .done :=
  fun _ => .done

@[grind ←] theorem fail (error : Error) : Level 0 (.fail error) :=
  fun _ => .fail error

theorem single {first : Step} (level : first.isLevel) : Level rise (.step first .done) :=
  fun _ => .single level

@[grind ←] theorem write (text : String) : Level rise (Script.write text) :=
  single rfl

@[grind ←] theorem delimit (delimiter : String) : Level rise (Script.delimit delimiter) :=
  single rfl

@[grind ←] theorem breakLine : Level rise Script.breakLine :=
  single rfl

@[grind ←] theorem bindLiteral (value : Json) : Level rise (Script.bindLiteral value) :=
  single rfl

@[grind ←] theorem bindNamed (name : String) (value : Json) :
    Level rise (Script.bindNamed name value) :=
  single rfl

@[grind ←] theorem append {first second : Script} (firsts : Level rise first)
    (seconds : Level rise second) : Level rise (first ++ second) :=
  fun height => (firsts height).append_level seconds

@[grind ←] theorem step {first : Step} {rest : Script} (level : first.isLevel)
    (rests : Level rise rest) : Level rise (.step first rest) :=
  fun height => .step level (rests height)

/-- A part that comes back to its level may be visited anywhere. -/
@[grind ←] theorem enter (segment : String) {body : Script} (bodies : Level 0 body) :
    Level rise (Script.enter segment body) :=
  fun _ => .enter segment (bodies 0)

/-- What stands on lines of its own between two texts. -/
theorem enclosed (opening closing : String) {body : Script} (bodies : Level rise body) :
    Level rise (Script.write opening ++ openLines ++ body ++ closeLines ++ Script.write closing) :=
  fun height => ((Climbs.opened rise height opening).append_level bodies).closed closing

/-! ## Sequences -/

theorem join {delimiter : Script} (delimiters : Level rise delimiter) {scripts : List Script}
    (levels : ∀ script ∈ scripts, Level rise script) :
    Level rise (Script.join delimiter scripts) := by
  induction scripts with
  | nil => exact nothing
  | cons first others ih =>
      obtain ⟨firsts, rests⟩ := List.forall_mem_cons.mp levels
      cases others with
      | nil => exact firsts
      | cons second others => exact (firsts.append delimiters).append (ih rests)

theorem visits (base : String) (index : Nat) {bodies : List Script}
    (levels : ∀ body ∈ bodies, Level 0 body) :
    ∀ visited ∈ Script.visits base index bodies, Level rise visited := by
  intro visited member
  obtain ⟨segment, body, inside, rfl⟩ := exists_enter_of_mem member
  exact (levels body inside).enter segment

theorem inLine (base delimiter : String) {bodies : List Script}
    (levels : ∀ body ∈ bodies, Level 0 body) :
    Level rise (Script.inLine base delimiter bodies) :=
  join (write delimiter) (visits base 0 levels)

theorem onLines (base delimiter : String) {bodies : List Script}
    (levels : ∀ body ∈ bodies, Level 0 body) :
    Level rise (Script.onLines base delimiter bodies) :=
  join (delimit delimiter) (visits base 0 levels)

end Level

end Script

end AqlPipeline
