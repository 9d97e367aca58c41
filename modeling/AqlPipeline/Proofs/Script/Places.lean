import AqlPipeline.Proofs.Text.Cut
import AqlPipeline.Render.Part

/-!
# Where a script visits

A script visits the parts of an expression at places: at segments of their own, or at the segments
of the items of a sequence.  It is orderly if a segment always stands for the same part, and no
segment goes on where another one ends, in the script and in all that it visits.
-/

namespace AqlPipeline

/-- Whether a step leaves out rows. -/
def Step.isSkip : Step → Bool
  | .skip _ => true
  | _ => false

namespace Script

/-! ## Keys -/

/-- What a place is called. -/
inductive Key where
  /-- A segment. -/
  | single (segment : String)
  /-- What the segments of the items of a sequence start with. -/
  | series (base : String)
  deriving DecidableEq

/-- The characters of a segment in front of its number. -/
def stem (segment : String) : List Char :=
  segment.toList.takeWhile (· != '[')

/-- How many points a segment has. -/
def points (segment : String) : Nat :=
  segment.toList.count '.'

namespace Key

/-- The segment, or what the segments start with. -/
def text : Key → String
  | .single segment => segment
  | .series base => base

/-- Whether no segment is at both of two places. -/
def Apart : Key → Key → Prop
  | .single first, .single second => first ≠ second
  | first, second => stem first.text ≠ stem second.text

instance : (first second : Key) → Decidable (first.Apart second)
  | .single first, .single second => inferInstanceAs (Decidable (first ≠ second))
  | .single first, .series second => inferInstanceAs (Decidable (stem first ≠ stem second))
  | .series first, .single second => inferInstanceAs (Decidable (stem first ≠ stem second))
  | .series first, .series second => inferInstanceAs (Decidable (stem first ≠ stem second))

/-- Places that are apart, with names of equally many points. -/
def Ordered (keys : List Key) : Prop :=
  keys.Pairwise Apart ∧ (∀ first ∈ keys, ∀ second ∈ keys, points first.text = points second.text) ∧
    ∀ key ∈ keys, Text.isAllBlank key.text = false

instance (keys : List Key) : Decidable (Ordered keys) :=
  inferInstanceAs (Decidable (_ ∧ _ ∧ _))

end Key

/-! ## Places -/

/-- A place with the parts that are visited there. -/
inductive Place where
  /-- A part at a segment of its own. -/
  | single (segment : String) (body : Script)
  /-- The items of a sequence. -/
  | series (base : String) (bodies : List Script)

namespace Place

/-- What the place is called. -/
def key : Place → Key
  | .single segment _ => .single segment
  | .series base _ => .series base

/-- The parts. -/
def bodies : Place → List Script
  | .single _ body => [body]
  | .series _ bodies => bodies

/-- Whether a part is at a segment of the place. -/
def Holds : Place → (segment : String) → (body : Script) → Prop
  | .single own part, segment, body => segment = own ∧ body = part
  | .series base parts, segment, body =>
    ∃ index, segment = numbered base index ∧ parts[index]? = some body

end Place

theorem numbered_injective (base : String) : Function.Injective (numbered base) := by
  intro first second same
  simp only [numbered, String.append_left_inj, String.append_right_inj] at same
  have numbers_eq := congrArg (fun text => Nat.ofDigitChars 10 text.toList 0) same
  simpa [Nat.ofDigitChars_ten_toDigits] using numbers_eq

theorem takeWhile_stopped {test : Char → Bool} {stop : Char} (stops : test stop = false)
    (front rest : List Char) : (front ++ stop :: rest).takeWhile test = front.takeWhile test := by
  induction front with
  | nil => simp [stops]
  | cons char front ih => simp [List.takeWhile_cons, ih]

theorem stem_numbered (base : String) (index : Nat) : stem (numbered base index) = stem base := by
  have chars : (numbered base index).toList =
      base.toList ++ '[' :: ((toString index).toList ++ [']']) := by
    simp [numbered]
  rw [stem, chars, takeWhile_stopped (by decide)]
  rfl

theorem points_numbered (base : String) (index : Nat) :
    points (numbered base index) = points base := by
  have plain : (Nat.toDigits 10 index).count '.' = 0 := by
    rw [List.count_eq_zero]
    intro point
    exact absurd (Nat.isDigit_of_mem_toDigits (by decide) (by decide) point) (by decide)
  simp [points, numbered, plain]

theorem isAllBlank_numbered {base : String} (named : Text.isAllBlank base = false) (index : Nat) :
    Text.isAllBlank (numbered base index) = false := by
  rw [Text.isAllBlank, List.all_eq_false] at named ⊢
  obtain ⟨char, member, seen⟩ := named
  exact ⟨char, by simp [numbered, member], seen⟩

namespace Place.Holds

variable {place : Place} {segment : String} {body : Script}

theorem mem_bodies (holds : place.Holds segment body) : body ∈ place.bodies := by
  cases place with
  | single own part => exact List.mem_singleton.mpr holds.2
  | series base parts =>
      obtain ⟨index, -, found⟩ := holds
      exact List.mem_of_getElem? found

theorem stem_eq (holds : place.Holds segment body) : stem segment = stem place.key.text := by
  cases place with
  | single own part => rw [holds.1]; rfl
  | series base parts =>
      obtain ⟨index, rfl, -⟩ := holds
      exact stem_numbered base index

theorem points_eq (holds : place.Holds segment body) :
    points segment = points place.key.text := by
  cases place with
  | single own part => rw [holds.1]; rfl
  | series base parts =>
      obtain ⟨index, rfl, -⟩ := holds
      exact points_numbered base index

theorem isAllBlank_eq (holds : place.Holds segment body)
    (named : Text.isAllBlank place.key.text = false) : Text.isAllBlank segment = false := by
  cases place with
  | single own part => rwa [holds.1]
  | series base parts =>
      obtain ⟨index, rfl, -⟩ := holds
      exact isAllBlank_numbered named index

theorem unique (holds : place.Holds segment body) {other : Script}
    (others : place.Holds segment other) : body = other := by
  cases place with
  | single own part => rw [holds.2, others.2]
  | series base parts =>
      obtain ⟨index, rfl, found⟩ := holds
      obtain ⟨again, same, others⟩ := others
      rw [numbered_injective base same, others] at found
      exact (Option.some.inj found).symm

/-- No segment is at two places that are apart. -/
theorem not_apart (holds : place.Holds segment body) {place' : Place} {other : Script}
    (others : place'.Holds segment other) : ¬ place.key.Apart place'.key := by
  have stems : stem place.key.text = stem place'.key.text :=
    holds.stem_eq.symm.trans others.stem_eq
  intro apart
  cases place with
  | series base parts => exact apart stems
  | single own part =>
      cases place' with
      | series base parts => exact apart stems
      | single own' part' => exact apart (holds.1.symm.trans others.1)

end Place.Holds

/-- Whether a part is at a segment of one of some places. -/
def Placed (places : List Place) (segment : String) (body : Script) : Prop :=
  ∃ place ∈ places, place.Holds segment body

namespace Placed

variable {places : List Place} {place : Place} {segment : String} {body : Script}

theorem head (holds : place.Holds segment body) : Placed (place :: places) segment body :=
  ⟨place, List.mem_cons_self, holds⟩

theorem tail (placed : Placed places segment body) : Placed (place :: places) segment body := by
  obtain ⟨other, member, holds⟩ := placed
  exact ⟨other, List.mem_cons_of_mem _ member, holds⟩

/-- A segment stands for one part. -/
theorem unique (apart : (places.map Place.key).Pairwise Key.Apart)
    (placed : Placed places segment body) {other : Script}
    (others : Placed places segment other) : body = other := by
  induction places with
  | nil => obtain ⟨_, member, _⟩ := placed; cases member
  | cons first places ih =>
      rw [List.map_cons, List.pairwise_cons] at apart
      obtain ⟨place, member, holds⟩ := placed
      obtain ⟨place', member', holds'⟩ := others
      rcases List.mem_cons.mp member with rfl | inside <;>
        rcases List.mem_cons.mp member' with rfl | inside'
      · exact holds.unique holds'
      · exact absurd (apart.1 _ (List.mem_map_of_mem inside')) (holds.not_apart holds')
      · exact absurd (apart.1 _ (List.mem_map_of_mem inside)) (holds'.not_apart holds)
      · exact ih apart.2 ⟨place, inside, holds⟩ ⟨place', inside', holds'⟩

end Placed

/-- Whether the items of a sequence, numbered from `start` on, are placed. -/
def Items (placed : String → Script → Prop) (base : String) (start : Nat)
    (bodies : List Script) : Prop :=
  ∀ (index : Nat) (body : Script), bodies[index]? = some body →
    placed (numbered base (start + index)) body

namespace Items

variable {placed : String → Script → Prop} {base : String} {start : Nat} {body : Script}
  {bodies : List Script}

theorem first (items : Items placed base start (body :: bodies)) :
    placed (numbered base start) body :=
  items 0 body rfl

theorem rest (items : Items placed base start (body :: bodies)) :
    Items placed base (start + 1) bodies := by
  intro index other found
  rw [Nat.add_assoc, Nat.add_comm 1]
  exact items (index + 1) other found

theorem series (base : String) (bodies : List Script) {places : List Place} :
    Items (Placed (.series base bodies :: places)) base 0 bodies :=
  fun index _ found => .head ⟨index, by rw [Nat.zero_add], found⟩

theorem tail {places : List Place} {place : Place}
    (items : Items (Placed places) base start bodies) :
    Items (Placed (place :: places)) base start bodies :=
  fun index other found => (items index other found).tail

end Items

/-! ## Scripts within places -/

/-- A script that visits only what is placed, and leaves out rows only if that is asked for. -/
inductive Within (skips : Prop) (placed : String → Script → Prop) : Script → Prop where
  | done : Within skips placed .done
  | fail (error : Error) : Within skips placed (.fail error)
  | step {first : Step} {rest : Script} (allowed : first.isSkip → skips)
      (rests : Within skips placed rest) : Within skips placed (.step first rest)
  | visit {segment : String} {body rest : Script} (place : placed segment body)
      (rests : Within skips placed rest) : Within skips placed (.visit segment body rest)

namespace Within

variable {skips : Prop} {placed : String → Script → Prop}

theorem append {first second : Script} (firsts : Within skips placed first)
    (seconds : Within skips placed second) : Within skips placed (first ++ second) := by
  induction firsts with
  | done => exact seconds
  | fail error => exact .fail error
  | step allowed _ ih => exact .step allowed ih
  | visit place _ ih => exact .visit place ih

theorem single {first : Step} (allowed : first.isSkip → skips) :
    Within skips placed (.step first .done) :=
  .step allowed .done

theorem write (text : String) : Within skips placed (Script.write text) :=
  single nofun

theorem delimit (text : String) : Within skips placed (Script.delimit text) :=
  single nofun

theorem breakLine : Within skips placed Script.breakLine :=
  single nofun

theorem dedent : Within skips placed Script.dedent :=
  single nofun

theorem openLines : Within skips placed Script.openLines :=
  append (single nofun) breakLine

theorem closeLines : Within skips placed Script.closeLines :=
  append dedent breakLine

theorem bindLiteral (value : Json) : Within skips placed (Script.bindLiteral value) :=
  single nofun

theorem bindNamed (name : String) (value : Json) :
    Within skips placed (Script.bindNamed name value) :=
  single nofun

theorem enter {segment : String} {body : Script} (place : placed segment body) :
    Within skips placed (Script.enter segment body) :=
  .visit place .done

/-- Something between two texts. -/
theorem between (opening closing : String) {body : Script} (bodies : Within skips placed body) :
    Within skips placed (Script.write opening ++ body ++ Script.write closing) :=
  ((write opening).append bodies).append (write closing)

theorem join {delimiter : Script} (delimiters : Within skips placed delimiter)
    {scripts : List Script} (within : ∀ script ∈ scripts, Within skips placed script) :
    Within skips placed (Script.join delimiter scripts) := by
  induction scripts with
  | nil => exact .done
  | cons first others ih =>
      obtain ⟨firsts, rests⟩ := List.forall_mem_cons.mp within
      cases others with
      | nil => exact firsts
      | cons second others => exact (firsts.append delimiters).append (ih rests)

theorem visits {base : String} {start : Nat} {bodies : List Script}
    (items : Items placed base start bodies) :
    ∀ script ∈ Script.visits base start bodies, Within skips placed script := by
  induction bodies generalizing start with
  | nil => nofun
  | cons body bodies ih => exact List.forall_mem_cons.mpr ⟨enter items.first, ih items.rest⟩

theorem inLine {base delimiter : String} {bodies : List Script}
    (items : Items placed base 0 bodies) :
    Within skips placed (Script.inLine base delimiter bodies) :=
  join (write delimiter) (visits items)

theorem onLines {base delimiter : String} {bodies : List Script}
    (items : Items placed base 0 bodies) :
    Within skips placed (Script.onLines base delimiter bodies) :=
  join (delimit delimiter) (visits items)

end Within

/-- A script that visits at places in order, and so does all that it visits. -/
inductive Orderly (skips : Prop) : Script → Prop where
  | mk {script : Script} (places : List Place) (ordered : Key.Ordered (places.map Place.key))
      (own : Within skips (Placed places) script)
      (inner : ∀ place ∈ places, ∀ body ∈ place.bodies, Orderly skips body) : Orderly skips script

namespace Orderly

variable {skips : Prop} {script : Script}

/-- A script that visits nothing. -/
theorem alone (own : Within skips (Placed []) script) : Orderly skips script :=
  .mk [] (by decide) own nofun

/-- A script that visits at one place. -/
theorem at_one (place : Place) (ordered : Key.Ordered [place.key])
    (own : Within skips (Placed [place]) script)
    (inner : ∀ body ∈ place.bodies, Orderly skips body) : Orderly skips script :=
  .mk [place] ordered own (by simpa using inner)

/-- A script that visits at two places. -/
theorem at_two (first second : Place) (ordered : Key.Ordered [first.key, second.key])
    (own : Within skips (Placed [first, second]) script)
    (firsts : ∀ body ∈ first.bodies, Orderly skips body)
    (seconds : ∀ body ∈ second.bodies, Orderly skips body) : Orderly skips script :=
  .mk [first, second] ordered own (by simpa using ⟨firsts, seconds⟩)

/-- A script that visits at three places. -/
theorem at_three (first second third : Place)
    (ordered : Key.Ordered [first.key, second.key, third.key])
    (own : Within skips (Placed [first, second, third]) script)
    (firsts : ∀ body ∈ first.bodies, Orderly skips body)
    (seconds : ∀ body ∈ second.bodies, Orderly skips body)
    (thirds : ∀ body ∈ third.bodies, Orderly skips body) : Orderly skips script :=
  .mk [first, second, third] ordered own (by simpa using ⟨firsts, seconds, thirds⟩)

theorem mem_single {segment : String} (orderly : Orderly skips script) :
    ∀ body ∈ (Place.single segment script).bodies, Orderly skips body := by
  intro body member
  rwa [List.mem_singleton.mp member]

end Orderly

end Script

/-! ## Parts -/

/-- Whether a part is orderly wherever it stands. -/
def Part.IsOrderly (skips : Prop) (part : Part) : Prop :=
  ∀ placement, Script.Orderly skips (part.scriptAt placement)

namespace Part.IsOrderly

variable {skips : Prop}

theorem scripts {parts : List Part} (orderly : ∀ part ∈ parts, part.IsOrderly skips) :
    ∀ script ∈ parts.map Part.script, Script.Orderly skips script := by
  intro script member
  obtain ⟨part, inside, rfl⟩ := List.mem_map.mp member
  exact orderly part inside {}

end Part.IsOrderly

end AqlPipeline
