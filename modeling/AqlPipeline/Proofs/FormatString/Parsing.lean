import AqlPipeline.Proofs.FormatString.Spelling

/-!
# Reading format strings

A format string is read as some segments exactly if it spells them and they are in the one form that
reading gives.  Segments that are written out are read back.
-/

namespace AqlPipeline.FormatString

/-! ## Forms of segment lists -/

/-- Whether a list of segments is one that reading gives: only the last one may be without an item,
and it has text then unless it stands alone. -/
def IsCanonical (segments : List Segment) : Prop :=
  segments ≠ [] ∧ (∀ segment ∈ segments.dropLast, segment.placeholder.isSome) ∧
    ∀ last ∈ segments.getLast?, last.placeholder = none → last.literal ≠ "" ∨ segments.length = 1

/-- The lists of segments that a scan gives: a last one without an item has text. -/
def IsSplit : List Segment → Prop
  | [] => True
  | ⟨_, some _⟩ :: segments => IsSplit segments
  | ⟨literal, none⟩ :: segments => literal ≠ "" ∧ segments = []

theorem isSplit_iff {segments : List Segment} :
    IsSplit segments ↔ (∀ segment ∈ segments.dropLast, segment.placeholder.isSome) ∧
      ∀ last ∈ segments.getLast?, last.placeholder = none → last.literal ≠ "" := by
  induction segments with
  | nil => simp [IsSplit]
  | cons segment segments ih =>
      obtain ⟨literal, placeholder⟩ := segment
      cases segments with
      | nil => cases placeholder <;> simp [IsSplit]
      | cons next segments =>
          rw [List.dropLast_cons_cons, List.getLast?_cons_cons, List.forall_mem_cons, and_assoc,
            ← ih]
          cases placeholder <;> simp [IsSplit]

theorem isCanonical_iff {segments : List Segment} :
    IsCanonical segments ↔
      segments = [⟨"", none⟩] ∨ segments ≠ [] ∧ IsSplit segments := by
  rw [isSplit_iff, IsCanonical]
  constructor
  · rintro ⟨filled, inner, last⟩
    by_cases alone : segments.length = 1
    · obtain ⟨⟨literal, placeholder⟩, rfl⟩ := List.length_eq_one_iff.mp alone
      cases placeholder with
      | some placeholder => exact .inr ⟨filled, inner, by simp⟩
      | none =>
          by_cases empty : literal = ""
          · exact .inl (by rw [empty])
          · exact .inr ⟨filled, inner, by simp [empty]⟩
    · exact .inr ⟨filled, inner, fun segment member bare =>
        (last segment member bare).resolve_right alone⟩
  · rintro (rfl | ⟨filled, inner, last⟩)
    · simp
    · exact ⟨filled, inner, fun segment member bare => .inl (last segment member bare)⟩

/-! ## Steps of a scan -/

/-- Literal characters as they are written. -/
def escaped (chars : List Char) : List Char :=
  (Render.doubledBraces (String.ofList chars)).toList

theorem toList_doubledBraces (literal : String) :
    (Render.doubledBraces literal).toList = escaped literal.toList := by
  rw [escaped, String.ofList_toList]

theorem escaped_nil : escaped [] = [] := rfl

theorem escaped_append (chars others : List Char) :
    escaped (chars ++ others) = escaped chars ++ escaped others := by
  simp [escaped, Render.doubledBraces]

theorem escaped_brace {brace : Char} (special : brace = '\x7b' ∨ brace = '\x7d') :
    escaped [brace] = [brace, brace] := by
  obtain rfl | rfl := special <;> rfl

theorem escaped_plain {char : Char} (opening : char ≠ '\x7b') (closing : char ≠ '\x7d') :
    escaped [char] = [char] := by
  simp [escaped, Render.doubledBraces, opening, closing]

/-- How the text of a literal goes on: with a doubled brace, with a single one, or with another
character. -/
theorem literal_cases (char : Char) (text : List Char) :
    (∃ brace rest, (brace = '\x7b' ∨ brace = '\x7d') ∧ char = brace ∧ text = brace :: rest) ∨
      (char = '\x7b' ∧ ∀ rest, text ≠ '\x7b' :: rest) ∨
      (char = '\x7d' ∧ ∀ rest, text ≠ '\x7d' :: rest) ∨ (char ≠ '\x7b' ∧ char ≠ '\x7d') := by
  by_cases special : char = '\x7b' ∨ char = '\x7d'
  · by_cases doubled : ∃ rest, text = char :: rest
    · obtain ⟨rest, text_eq⟩ := doubled
      exact .inl ⟨char, rest, special, rfl, text_eq⟩
    · have single : ∀ rest, text ≠ char :: rest := fun rest text_eq => doubled ⟨rest, text_eq⟩
      obtain rfl | rfl := special
      · exact .inr (.inl ⟨rfl, single⟩)
      · exact .inr (.inr (.inl ⟨rfl, single⟩))
  · exact .inr (.inr (.inr (not_or.mp special)))

section Steps

variable {found literal text : List Char} {position start : Nat} {char : Char}

theorem scan_plain (opening : char ≠ '\x7b') (closing : char ≠ '\x7d') :
    scan (.literal found) position (char :: text) =
      scan (.literal (char :: found)) (position + char.utf8Size) text := by
  rw [scan] <;> simp [opening, closing]

theorem scan_opening (single : ∀ rest, text ≠ '\x7b' :: rest) :
    scan (.literal found) position ('\x7b' :: text) =
      scan (.item found position []) (position + 1) text := by
  rw [scan]
  exact single

theorem scan_closing (single : ∀ rest, text ≠ '\x7d' :: rest) :
    scan (.literal found) position ('\x7d' :: text) = .error (.unmatched position) := by
  rw [scan]
  exact single

theorem scan_item (inside : char ≠ '\x7d') :
    scan (.item literal start found) position (char :: text) =
      scan (.item literal start (char :: found)) (position + char.utf8Size) text := by
  rw [scan]
  exact inside

end Steps

/-! ## What a scan gives is spelled -/

/-- What has been read, as it was written. -/
def Reading.written : Reading → List Char
  | .literal found => escaped found.reverse
  | .item before _ found => escaped before.reverse ++ '\x7b' :: found.reverse

/-- Whether the item that is being read has not been closed. -/
def Reading.IsOpen : Reading → Prop
  | .literal _ => True
  | .item _ _ found => '\x7d' ∉ found

theorem written_cons {char : Char} {found text : List Char} :
    (Reading.literal (char :: found)).written ++ text =
      (Reading.literal found).written ++ (escaped [char] ++ text) := by
  simp [Reading.written, escaped_append]

/-- What has been read and the rest of the text together spell the segments. -/
theorem spells_of_scan (reading : Reading) (position : Nat) (text : List Char)
    {segments : List Segment} (scanned : scan reading position text = .ok segments)
    (isOpen : reading.IsOpen) :
    Spells segments (reading.written ++ text) ∧ IsSplit segments := by
  match reading, text with
  | .literal [], [] =>
      simp only [scan, Except.ok.injEq] at scanned
      subst scanned
      exact ⟨by rw [Reading.written, List.reverse_nil, escaped_nil]; rfl, trivial⟩
  | .literal (char :: found), [] =>
      simp only [scan, Except.ok.injEq] at scanned
      subst scanned
      refine ⟨⟨[], [], ?_, rfl, rfl⟩, ?_, rfl⟩
      · rw [toList_doubledBraces, String.toList_ofList, Reading.written]
        rfl
      · simp
  | .literal found, char :: text =>
      rcases literal_cases char text with
        ⟨brace, rest, special, rfl, rfl⟩ | ⟨rfl, single⟩ | ⟨rfl, single⟩ | ⟨opening, closing⟩
      · rw [scan_doubled special] at scanned
        have later := spells_of_scan _ _ rest scanned trivial
        rwa [written_cons, escaped_brace special] at later
      · rw [scan_opening single] at scanned
        have later := spells_of_scan _ _ text scanned List.not_mem_nil
        simpa [Reading.written] using later
      · rw [scan_closing single] at scanned
        cases scanned
      · rw [scan_plain opening closing] at scanned
        have later := spells_of_scan _ _ text scanned trivial
        rwa [written_cons, escaped_plain opening closing] at later
  | .item literal start found, [] => cases scanned
  | .item literal start found, char :: text =>
      by_cases closing : char = '\x7d'
      · subst closing
        have unclosed : '\x7d' ∉ found.reverse := by simpa [Reading.IsOpen] using isOpen
        simp only [scan] at scanned
        split at scanned
        · cases scanned
        · rename_i placeholder read
          cases rest : scan (.literal []) (position + 1) text with
          | error fault =>
              rw [rest] at scanned
              cases scanned
          | ok others =>
              rw [rest] at scanned
              cases scanned
              obtain ⟨spells, split⟩ := spells_of_scan _ _ text rest trivial
              refine ⟨⟨'\x7b' :: (found.reverse ++ ['\x7d']), text, ?_, ⟨_, rfl, ?_⟩, spells⟩,
                split⟩
              · simp [Reading.written, escaped]
              · exact (placeholder?_eq_some_iff unclosed).mp read
      · rw [scan_item closing] at scanned
        have later := spells_of_scan _ _ text scanned
          (List.not_mem_cons_of_ne_of_not_mem (Ne.symm closing) isOpen)
        simpa [Reading.written] using later
termination_by text.length

/-! ## What is spelled is scanned -/

/-- A scan reads escaped characters as they were before. -/
theorem scan_escaped (literal found : List Char) (position : Nat) (tail : List Char) :
    ∃ behind, scan (.literal found) position (escaped literal ++ tail) =
      scan (.literal (literal.reverse ++ found)) behind tail := by
  induction literal generalizing found position with
  | nil =>
      refine ⟨position, ?_⟩
      rw [escaped_nil, List.nil_append, List.reverse_nil, List.nil_append]
  | cons char literal ih =>
      have shape : escaped (char :: literal) = escaped [char] ++ escaped literal :=
        escaped_append [char] literal
      have step : ∃ next, scan (.literal found) position (escaped (char :: literal) ++ tail) =
          scan (.literal (char :: found)) next (escaped literal ++ tail) := by
        rw [shape, List.append_assoc]
        by_cases brace : char = '\x7b' ∨ char = '\x7d'
        · refine ⟨position + 2, ?_⟩
          rw [escaped_brace brace, List.cons_append, List.singleton_append, scan_doubled brace]
        · obtain ⟨opening, closing⟩ := not_or.mp brace
          refine ⟨position + char.utf8Size, ?_⟩
          rw [escaped_plain opening closing, List.singleton_append, scan_plain opening closing]
      obtain ⟨next, stepped⟩ := step
      obtain ⟨behind, scanned⟩ := ih (char :: found) next
      refine ⟨behind, ?_⟩
      rw [stepped, scanned, List.reverse_cons, List.append_assoc, List.singleton_append]

/-- A scan reads an item up to the brace that closes it. -/
theorem scan_unclosed {item : List Char} (unclosed : '\x7d' ∉ item) (literal : List Char)
    (start : Nat) (found : List Char) (position : Nat) (tail : List Char) :
    ∃ behind, scan (.item literal start found) position (item ++ tail) =
      scan (.item literal start (item.reverse ++ found)) behind tail := by
  induction item generalizing found position with
  | nil => exact ⟨position, rfl⟩
  | cons char item ih =>
      simp only [List.mem_cons, not_or] at unclosed
      obtain ⟨behind, scanned⟩ := ih unclosed.2 (char :: found) (position + char.utf8Size)
      refine ⟨behind, ?_⟩
      rw [List.cons_append, scan_item (Ne.symm unclosed.1), scanned, List.reverse_cons,
        List.append_assoc, List.singleton_append]

theorem scan_of_spells (segments : List Segment) (position : Nat) (text : List Char)
    (isSplit : IsSplit segments) (spells : Spells segments text) :
    scan (.literal []) position text = .ok segments := by
  induction segments generalizing position text with
  | nil =>
      have text_eq : text = [] := spells
      rw [text_eq, scan]
  | cons segment segments ih =>
      obtain ⟨literal, placeholder⟩ := segment
      obtain ⟨item, others, rfl, itemSpells, otherSpells⟩ := spells
      rw [toList_doubledBraces]
      obtain ⟨behind, scanned⟩ := scan_escaped literal.toList [] position (item ++ others)
      rw [scanned, List.append_nil]
      cases placeholder with
      | none =>
          obtain ⟨filled, rfl⟩ := isSplit
          have item_eq : item = [] := itemSpells
          have others_eq : others = [] := otherSpells
          rw [item_eq, others_eq, List.append_nil, scan]
          · rw [List.reverse_reverse, String.ofList_toList]
          · simpa using filled
      | some placeholder =>
          obtain ⟨inner, rfl, innerSpells⟩ := itemSpells
          obtain ⟨char, rest, inner_eq, plain⟩ := innerSpells.eq_cons
          have single : ∀ later, inner ++ ['\x7d'] ++ others ≠ '\x7b' :: later := by
            intro later text_eq
            rw [inner_eq] at text_eq
            exact plain (List.cons.inj text_eq).1
          rw [List.cons_append, scan_opening single, List.append_assoc]
          obtain ⟨closing, read⟩ := scan_unclosed innerSpells.not_mem literal.toList.reverse behind
            [] (behind + 1) ('\x7d' :: others)
          rw [List.singleton_append, read, List.append_nil, scan, List.reverse_reverse,
            (placeholder?_eq_some_iff innerSpells.not_mem).mpr innerSpells]
          dsimp only
          rw [ih _ others isSplit otherSpells, List.reverse_reverse, String.ofList_toList]
          rfl

/-! ## Writing -/

/-- An item in its braces. -/
def Placeholder.render (placeholder : Placeholder) : String :=
  "\x7b" ++ toString placeholder.index ++ (placeholder.alignment.map ("," ++ ·)).getD "" ++
    (placeholder.format.map (":" ++ ·)).getD "" ++ "\x7d"

/-- The format string of some segments, without blanks around the parts of items. -/
def render : List Segment → String
  | [] => ""
  | segment :: segments =>
    Render.doubledBraces segment.literal ++ (segment.placeholder.map Placeholder.render).getD "" ++
      render segments

/-- Whether an item has a spelling. -/
def Placeholder.IsWritable (placeholder : Placeholder) : Prop :=
  placeholder.index < UInt64.size ∧
    (∀ alignment ∈ placeholder.alignment, IsAlignment alignment.toList) ∧
    ∀ format ∈ placeholder.format, '\x7d' ∉ format.toList

theorem spellsNumber_toString (number : Nat) : SpellsNumber number (toString number).toList := by
  rw [Nat.toString_eq_ofList_toDigits, String.toList_ofList]
  exact ⟨Nat.toDigits 10 number, .inl rfl, Nat.toDigits_ne_nil,
    fun _ member => Nat.isDigit_of_mem_toDigits (by decide) (by decide) member,
    Nat.ofDigitChars_ten_toDigits⟩

theorem padded_refl (chars : List Char) : Padded chars chars :=
  ⟨[], [], by simp, by simp, by simp⟩

theorem Placeholder.IsWritable.spells_render {placeholder : Placeholder}
    (writable : placeholder.IsWritable) :
    SpellsItem (some placeholder) placeholder.render.toList := by
  obtain ⟨index, alignment, format⟩ := placeholder
  obtain ⟨small, aligned, formatted⟩ := writable
  refine ⟨(toString index).toList ++ ((alignment.map ("," ++ ·)).getD "").toList ++
    ((format.map (":" ++ ·)).getD "").toList, ?_, ?_⟩
  · simp [Placeholder.render]
  · refine ⟨_, _, rfl, ⟨_, _, _, rfl, spellsNumber_toString index, small, padded_refl _, ?_⟩, ?_⟩
    · cases alignment with
      | none => rfl
      | some alignment => exact ⟨aligned alignment rfl, _, by simp, padded_refl _⟩
    · cases format with
      | none => rfl
      | some format => exact ⟨formatted format rfl, by simp⟩

theorem spells_render {segments : List Segment}
    (writable : ∀ segment ∈ segments, ∀ placeholder ∈ segment.placeholder,
      placeholder.IsWritable) : Spells segments (render segments).toList := by
  induction segments with
  | nil => rfl
  | cons segment segments ih =>
      obtain ⟨own, others⟩ := List.forall_mem_cons.mp writable
      refine ⟨((segment.placeholder.map Placeholder.render).getD "").toList, _, ?_, ?_, ih others⟩
      · rw [render, String.toList_append, String.toList_append, List.append_assoc]
      · cases stored : segment.placeholder with
        | none => rfl
        | some placeholder => exact (own placeholder stored).spells_render

/-- Only items that can be written are spelled. -/
theorem Spells.isWritable {segments : List Segment} {text : List Char}
    (spells : Spells segments text) :
    ∀ segment ∈ segments, ∀ placeholder ∈ segment.placeholder, placeholder.IsWritable := by
  induction segments generalizing text with
  | nil => simp
  | cons segment segments ih =>
      obtain ⟨item, others, -, itemSpells, otherSpells⟩ := spells
      refine List.forall_mem_cons.mpr ⟨?_, ih otherSpells⟩
      intro placeholder stored
      rw [Option.mem_def.mp stored] at itemSpells
      obtain ⟨inner, -, front, format, -, ⟨_, _, alignment, -, -, small, -, aligned⟩, formatted⟩ :=
        itemSpells
      refine ⟨small, ?_, ?_⟩
      · intro width width_eq
        rw [Option.mem_def.mp width_eq] at aligned
        exact aligned.1
      · intro text text_eq
        rw [Option.mem_def.mp text_eq] at formatted
        exact formatted.1

/-! ## Reading -/

theorem parse_eq_ok_iff {format : String} {segments : List Segment} :
    parse format = .ok segments ↔ IsCanonical segments ∧ Spells segments format.toList := by
  rw [isCanonical_iff]
  constructor
  · intro parsed
    unfold parse at parsed
    cases scanned : scan (.literal []) 0 format.toList with
    | error fault =>
        rw [scanned] at parsed
        cases parsed
    | ok found =>
        rw [scanned] at parsed
        obtain ⟨spells, isSplit⟩ := spells_of_scan _ _ _ scanned trivial
        rw [Reading.written, List.reverse_nil, escaped_nil, List.nil_append] at spells
        cases found with
        | nil =>
            cases parsed
            exact ⟨.inl rfl, [], [], spells, rfl, rfl⟩
        | cons segment found =>
            cases parsed
            exact ⟨.inr ⟨List.cons_ne_nil _ _, isSplit⟩, spells⟩
  · rintro ⟨rfl | ⟨filled, isSplit⟩, spells⟩
    · obtain ⟨item, others, text_eq, itemSpells, otherSpells⟩ := spells
      have item_eq : item = [] := itemSpells
      have others_eq : others = [] := otherSpells
      rw [item_eq, others_eq] at text_eq
      rw [parse, text_eq]
      rfl
    · rw [parse, scan_of_spells segments 0 _ isSplit spells]
      cases segments with
      | nil => exact absurd rfl filled
      | cons segment segments => rfl

/-- Reading accepts the spellings of the segments it gives and nothing else, and it gives back the
segments that were written. -/
theorem parse_spelling (segments : List Segment) :
    (∀ format : String,
      parse format = .ok segments ↔ IsCanonical segments ∧ Spells segments format.toList) ∧
    (parse (render segments) = .ok segments ↔
      IsCanonical segments ∧
        ∀ segment ∈ segments, ∀ placeholder ∈ segment.placeholder, placeholder.IsWritable) := by
  refine ⟨fun format => parse_eq_ok_iff, ?_⟩
  rw [parse_eq_ok_iff]
  constructor
  · rintro ⟨canonical, spells⟩
    exact ⟨canonical, spells.isWritable⟩
  · rintro ⟨canonical, writable⟩
    exact ⟨canonical, spells_render writable⟩

-- Doubled braces around an item, blanks, both signs, a zero in front and a comma in the format.
example : parse "\x7b\x7b\x7b +01 , -+5 :a,b\x7d\x7d\x7d" =
    .ok [⟨"\x7b", some ⟨1, some "-+5", some "a,b"⟩⟩, ⟨"\x7d", none⟩] := by
  rfl

end AqlPipeline.FormatString
