/-!
# Brackets

Round, square and curly brackets of a text match if the text is made of plain characters and of
groups, each with its own pair around it.  Reading the text with a stack of the closing brackets
that are still due decides this: there are none left at the end.
-/

namespace AqlPipeline.Text

/-- The bracket that closes what another one opens. -/
def closing? : Char → Option Char
  | '(' => some ')'
  | '[' => some ']'
  | '\x7b' => some '\x7d'
  | _ => none

/-- Whether a character is a closing bracket. -/
def isClosing (char : Char) : Bool :=
  char == ')' || char == ']' || char == '\x7d'

/-- Whether a character is a bracket. -/
def isBracket (char : Char) : Bool :=
  (closing? char).isSome || isClosing char

/-- All brackets. -/
def brackets : List Char :=
  ['(', ')', '[', ']', '\x7b', '\x7d']

theorem isBracket_iff {char : Char} : isBracket char ↔ char ∈ brackets := by
  unfold isBracket closing? isClosing brackets
  split <;> simp_all [or_assoc]

/-- A property that no bracket has tells a character from the brackets. -/
theorem isBracket_eq_false {test : Char → Bool} (apart : brackets.all fun char => !test char)
    {char : Char} (holds : test char) : isBracket char = false := by
  rw [← Bool.not_eq_true, isBracket_iff]
  intro bracket
  have fails := List.all_eq_true.mp apart char bracket
  rw [holds] at fails
  cases fails

/-- Texts made of plain characters and of groups in brackets. -/
inductive Nests : List Char → Prop where
  | nil : Nests []
  | plain {char : Char} {rest : List Char} (plain : isBracket char = false) (rests : Nests rest) :
      Nests (char :: rest)
  | group {opening closing : Char} {inside rest : List Char}
      (pair : closing? opening = some closing) (insides : Nests inside) (rests : Nests rest) :
      Nests (opening :: (inside ++ closing :: rest))

/-- Whether the brackets of a text match. -/
def Balanced (text : String) : Prop :=
  Nests text.toList

/-! ## Reading with a stack -/

/-- The closing brackets that are due behind a character, if it does not close a wrong one. -/
def nestChar (due : List Char) (char : Char) : Option (List Char) :=
  match closing? char with
  | some closing => some (closing :: due)
  | none =>
    if isClosing char then
      match due with
      | [] => none
      | first :: due => if first = char then some due else none
    else some due

/-- The closing brackets that are due behind a text, if it closes none that are not. -/
def nest (due text : List Char) : Option (List Char) :=
  text.foldlM nestChar due

theorem nest_cons (due : List Char) (char : Char) (text : List Char) :
    nest due (char :: text) = (nestChar due char).bind (nest · text) := rfl

theorem nest_append (due first second : List Char) :
    nest due (first ++ second) = (nest due first).bind (nest · second) := by
  rw [nest, List.foldlM_append]
  rfl

theorem nestChar_of_closing? {opening closing : Char} (pair : closing? opening = some closing)
    (due : List Char) : nestChar due opening = some (closing :: due) := by
  simp only [nestChar, pair]

/-- A bracket that closes is not one that opens. -/
theorem isClosing_of_closing? {opening closing : Char} (pair : closing? opening = some closing) :
    closing? closing = none ∧ isClosing closing := by
  unfold closing? at pair
  split at pair <;> cases pair <;> decide

theorem nestChar_closing {opening closing : Char} (pair : closing? opening = some closing)
    (due : List Char) : nestChar (closing :: due) closing = some due := by
  obtain ⟨unopened, closes⟩ := isClosing_of_closing? pair
  simp [nestChar, unopened, closes]

theorem nestChar_plain {char : Char} (plain : isBracket char = false) (due : List Char) :
    nestChar due char = some due := by
  obtain ⟨unopened, unclosed⟩ : closing? char = none ∧ isClosing char = false := by
    simpa [isBracket] using plain
  simp [nestChar, unopened, unclosed]

/-- A text whose brackets match leaves what is due as it is. -/
theorem Nests.nest_eq {text : List Char} (nests : Nests text) (due : List Char) :
    nest due text = some due := by
  induction nests generalizing due with
  | nil => rfl
  | plain plain _ ih => rw [nest_cons, nestChar_plain plain, Option.bind_some, ih]
  | group pair _ _ insideIh restIh =>
      rw [nest_cons, nestChar_of_closing? pair, Option.bind_some, nest_append, insideIh,
        Option.bind_some, nest_cons, nestChar_closing pair, Option.bind_some, restIh]

/-- What a text with nothing due at its end does to the last closing bracket that is due: a part
that nests comes in front of it. -/
theorem split_of_nest_eq_nil {closing : Char} {due text : List Char}
    (read : nest (closing :: due) text = some []) :
    ∃ inside rest, text = inside ++ closing :: rest ∧ Nests inside ∧ nest due rest = some [] := by
  -- by induction on the length: behind a group inside, the same bracket is still due
  induction length : text.length using Nat.strongRecOn generalizing closing due text with
  | ind count ih =>
      cases text with
      | nil => cases read
      | cons char text =>
          rw [List.length_cons] at length
          rw [nest_cons] at read
          cases opened : closing? char with
          | some inner =>
              rw [nestChar_of_closing? opened, Option.bind_some] at read
              obtain ⟨first, behind, rfl, firsts, read⟩ := ih _ (by omega) read rfl
              rw [List.length_append, List.length_cons] at length
              obtain ⟨second, rest, rfl, seconds, read⟩ := ih _ (by omega) read rfl
              exact ⟨char :: (first ++ inner :: second), rest, by simp,
                .group opened firsts seconds, read⟩
          | none =>
              by_cases closes : isClosing char
              · rw [nestChar, opened, if_pos closes] at read
                by_cases same : closing = char
                · simp only [if_pos same, Option.bind_some] at read
                  exact ⟨[], text, by rw [same, List.nil_append], .nil, read⟩
                · simp only [if_neg same, Option.bind_none] at read
                  cases read
              · have plain : isBracket char = false := by simp [isBracket, opened, closes]
                rw [nestChar_plain plain, Option.bind_some] at read
                obtain ⟨inside, rest, rfl, insides, read⟩ := ih _ (by omega) read rfl
                exact ⟨char :: inside, rest, rfl, .plain plain insides, read⟩

theorem nests_of_nest_eq_nil {text : List Char} (read : nest [] text = some []) :
    Nests text := by
  induction length : text.length using Nat.strongRecOn generalizing text with
  | ind count ih =>
      cases text with
      | nil => exact .nil
      | cons char text =>
          rw [List.length_cons] at length
          rw [nest_cons] at read
          cases opened : closing? char with
          | some closing =>
              rw [nestChar_of_closing? opened, Option.bind_some] at read
              obtain ⟨inside, rest, rfl, insides, read⟩ := split_of_nest_eq_nil read
              rw [List.length_append, List.length_cons] at length
              exact .group opened insides (ih _ (by omega) read rfl)
          | none =>
              have plain : isBracket char = false := by
                cases closes : isClosing char with
                | false => simp [isBracket, opened, closes]
                | true => simp [nestChar, opened, closes] at read
              rw [nestChar_plain plain, Option.bind_some] at read
              exact .plain plain (ih _ (by omega) read rfl)

theorem nests_iff {text : List Char} : Nests text ↔ nest [] text = some [] :=
  ⟨fun nests => nests.nest_eq [], nests_of_nest_eq_nil⟩

instance (text : String) : Decidable (Balanced text) :=
  decidable_of_iff _ nests_iff.symm

/-- What is due below does not matter as long as it is not reached. -/
theorem nest_below {due text next : List Char} (read : nest due text = some next)
    (below : List Char) : nest (due ++ below) text = some (next ++ below) := by
  induction text generalizing due with
  | nil =>
      cases read
      rfl
  | cons char text ih =>
      rw [nest_cons] at read ⊢
      obtain ⟨middle, first, read⟩ := Option.bind_eq_some_iff.mp read
      have framed : nestChar (due ++ below) char = some (middle ++ below) := by
        cases opened : closing? char with
        | some closing =>
            rw [nestChar_of_closing? opened] at first ⊢
            cases first
            rfl
        | none =>
            cases closes : isClosing char with
            | false =>
                have plain : isBracket char = false := by simp [isBracket, opened, closes]
                rw [nestChar_plain plain] at first ⊢
                cases first
                rfl
            | true =>
                cases due with
                | nil => simp [nestChar, opened, closes] at first
                | cons top due => simp_all [nestChar]
      rw [framed, Option.bind_some, ih read]

/-- Only brackets matter. -/
theorem nest_filter (due text : List Char) : nest due (text.filter isBracket) = nest due text := by
  induction text generalizing due with
  | nil => rfl
  | cons char text ih =>
      cases bracket : isBracket char with
      | true => simp [bracket, nest_cons, ih]
      | false => simp [bracket, nest_cons, nestChar_plain bracket, ih]

theorem nest_congr {text other : List Char}
    (same : text.filter isBracket = other.filter isBracket) (due : List Char) :
    nest due text = nest due other := by
  rw [← nest_filter due text, same, nest_filter]

/-! ## Putting texts together -/

theorem Nests.append {first second : List Char} (firsts : Nests first) (seconds : Nests second) :
    Nests (first ++ second) := by
  rw [nests_iff, nest_append, firsts.nest_eq, Option.bind_some, seconds.nest_eq]

theorem Balanced.append {first second : String} (firsts : Balanced first)
    (seconds : Balanced second) : Balanced (first ++ second) := by
  rw [Balanced, String.toList_append]
  exact Nests.append firsts seconds

/-- A text may be put between one that opens a bracket and one that closes it. -/
theorem Balanced.enclosed {opening text closing : String} (balanced : Balanced text)
    (bracket : Char) (opens : nest [] opening.toList = some [bracket])
    (closes : nest [bracket] closing.toList = some []) :
    Balanced (opening ++ text ++ closing) := by
  rw [Balanced, nests_iff, String.toList_append, String.toList_append, nest_append, nest_append,
    opens, Option.bind_some, balanced.nest_eq, Option.bind_some, closes]

/-- Whether a text has no brackets at all. -/
def Bracketless (text : List Char) : Prop :=
  ∀ char ∈ text, isBracket char = false

instance (text : List Char) : Decidable (Bracketless text) :=
  List.decidableBAll (fun char => isBracket char = false) text

namespace Bracketless

theorem append {first second : List Char} (firsts : Bracketless first)
    (seconds : Bracketless second) : Bracketless (first ++ second) :=
  List.forall_mem_append.mpr ⟨firsts, seconds⟩

theorem cons {char : Char} {text : List Char} (plain : isBracket char = false)
    (rests : Bracketless text) : Bracketless (char :: text) :=
  List.forall_mem_cons.mpr ⟨plain, rests⟩

theorem replicate {char : Char} (plain : isBracket char = false) (count : Nat) :
    Bracketless (List.replicate count char) :=
  fun _ member => (List.eq_of_mem_replicate member).symm ▸ plain

theorem filter_eq_nil {text : List Char} (plain : Bracketless text) :
    text.filter isBracket = [] := by
  rw [List.filter_eq_nil_iff]
  intro char member
  rw [plain char member]
  decide

theorem nests {text : List Char} (plain : Bracketless text) : Nests text := by
  have same : text.filter isBracket = [].filter isBracket := plain.filter_eq_nil
  rw [nests_iff, nest_congr same]
  rfl

end Bracketless

/-- They match if those of a text with the same brackets do. -/
theorem Balanced.congr {text other : String} (balanced : Balanced other)
    (same : text.toList.filter isBracket = other.toList.filter isBracket) : Balanced text := by
  rw [Balanced, nests_iff, nest_congr same]
  exact nests_iff.mp balanced

end AqlPipeline.Text
