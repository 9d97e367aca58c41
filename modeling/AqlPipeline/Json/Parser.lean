import AqlPipeline.Json.Scanner

/-!
# Reading JSON text

Strict JSON: no comments, no trailing commas, nothing but blanks around the value, and at most 127
arrays and objects inside each other. Repeated names are kept as they come.

A value whose content is of no interest can be skimmed: then only its grammar is looked at, and
neither depth nor the size of numbers nor the pairing of surrogates matters.
-/

namespace AqlPipeline.Json

/-- How carefully a value is read. -/
inductive Care where
  /-- The value is wanted; the number tells how many levels may still be opened. -/
  | strict (levels : Nat)
  /-- The value is skipped. -/
  | skim

/-- The care for the content of an array or object, if another level may be opened. -/
def Care.inside? : Care → Option Care
  | .strict (levels + 1) => some (.strict levels)
  | .strict 0 => none
  | .skim => some .skim

/-- Reads a string behind its opening quote. -/
def Care.string (care : Care) (text : List Char) : Scanned String :=
  match care with
  | .strict _ => scanString [] text
  | .skim => (skipString text).map fun (_, text) => ("", text)

/-- Reads a number behind its sign. -/
def Care.number (care : Care) (negative : Bool) (text : List Char) : Scanned Json :=
  match care with
  | .strict _ => scanNumber negative text
  | .skim => (scanNumeral negative text).map fun (_, text) => (.null, text)

/-- What follows inside an array or object: another item, at the start of the text returned, or the
closing bracket, with the text behind it. Items are divided by commas. -/
inductive Next where
  /-- An item starts here. -/
  | item (text : List Char)
  /-- The bracket has been closed. -/
  | close (rest : List Char)

/-- Looks for the next item or the closing bracket. -/
def next (bracket : Char) (first : Bool) (text : List Char) : Except Stop Next :=
  match skipBlanks text with
  | [] => .error ⟨[]⟩
  | char :: rest =>
    if char = bracket then .ok (.close rest)
    else if first then .ok (.item (char :: rest))
    else if char = ',' then
      match skipBlanks rest with
      | [] => .error ⟨[]⟩
      | char :: rest => if char = bracket then .error ⟨rest⟩ else .ok (.item (char :: rest))
    else .error ⟨rest⟩

/-- Reads a name and the colon behind it. -/
def scanName (care : Care) : (text : List Char) → Except Stop (String × List Char)
  | '\x22' :: text => do
    let (name, text) ← care.string text
    match skipBlanks text with
    | ':' :: text => return (name, text)
    | text => failAt text
  | text => failAt text

mutual

/-- Reads a value. The fuel bounds the number of calls, of which every two read a character. -/
def scanValue : (fuel : Nat) → (care : Care) → (text : List Char) → Scanned Json
  | 0, _, text => .error ⟨text⟩
  | fuel + 1, care, text =>
    match skipBlanks text with
    | 'n' :: text => (expect ['u', 'l', 'l'] text).map fun (_, text) => (.null, text)
    | 't' :: text => (expect ['r', 'u', 'e'] text).map fun (_, text) => (.bool true, text)
    | 'f' :: text => (expect ['a', 'l', 's', 'e'] text).map fun (_, text) => (.bool false, text)
    | '\x22' :: text => (care.string text).map fun (value, text) => (.string value, text)
    | '-' :: text => care.number true text
    | '[' :: text =>
      match care.inside? with
      | some care => scanItems fuel care [] text
      | none => .error ⟨text⟩
    | '\x7b' :: text =>
      match care.inside? with
      | some care => scanMembers fuel care [] text
      | none => .error ⟨text⟩
    | char :: text => if isDigit char then care.number false (char :: text) else .error ⟨text⟩
    | [] => .error ⟨[]⟩

/-- Reads the rest of an array; `found` holds its items so far, the last one first. -/
def scanItems : (fuel : Nat) → (care : Care) → (found : List Json) → (text : List Char) →
    Scanned Json
  | 0, _, _, text => .error ⟨text⟩
  | fuel + 1, care, found, text =>
    match next ']' found.isEmpty text with
    | .error stop => .error stop
    | .ok (.close text) => .ok (.array found.reverse, text)
    | .ok (.item text) =>
      match scanValue fuel care text with
      | .error stop => .error stop
      | .ok (value, text) => scanItems fuel care (value :: found) text

/-- Reads the rest of an object; `found` holds its members so far, the last one first. -/
def scanMembers : (fuel : Nat) → (care : Care) → (found : List (String × Json)) →
    (text : List Char) → Scanned Json
  | 0, _, _, text => .error ⟨text⟩
  | fuel + 1, care, found, text =>
    match next '\x7d' found.isEmpty text with
    | .error stop => .error stop
    | .ok (.close text) => .ok (.object found.reverse, text)
    | .ok (.item text) =>
      match scanName care text with
      | .error stop => .error stop
      | .ok (name, text) =>
        match scanValue fuel care text with
        | .error stop => .error stop
        | .ok (value, text) => scanMembers fuel care ((name, value) :: found) text

end

/-- Enough fuel to read a text. -/
def fuelFor (text : List Char) : Nat :=
  2 * text.length + 2

/-- Checks that nothing but blanks is left. -/
def expectEnd (text : List Char) : Except Stop Unit :=
  match skipBlanks text with
  | [] => .ok ()
  | _ :: rest => .error ⟨rest⟩

/-- Reads a whole text. Repeated names are kept. -/
def parse? (text : String) : Option Json :=
  match scanValue (fuelFor text.toList) (.strict 127) text.toList with
  | .error _ => none
  | .ok (value, rest) =>
    match expectEnd rest with
    | .error _ => none
    | .ok () => some value

end AqlPipeline.Json
