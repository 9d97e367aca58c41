import AqlPipeline.Text.Blank

/-!
# Composite format strings

A format string is literal text with items `{index[,alignment][:format]}` in it; a doubled brace
stands for a brace. Parsing splits it into segments: a literal, and the item behind it.
-/

namespace AqlPipeline.FormatString

/-- An item of a format string. -/
structure Placeholder where
  /-- The number of the argument that fills it in. -/
  index : Nat
  /-- The width, with its sign, as written. -/
  alignment : Option String
  /-- How the argument is formatted. -/
  format : Option String
  deriving DecidableEq, Repr

/-- Literal text, its braces no longer doubled, and the item behind it if there is one. -/
structure Segment where
  /-- The text. -/
  literal : String
  /-- The item. -/
  placeholder : Option Placeholder
  deriving DecidableEq, Repr

/-- What is wrong with a format string. Positions count bytes. -/
inductive Fault where
  /-- A closing brace without an item. -/
  | unmatched (position : Nat)
  /-- An item that is not closed. -/
  | unterminated (position : Nat)
  /-- An item that does not read as one. -/
  | malformed (item : String)
  deriving DecidableEq, Repr

/-- What is wrong, in words. -/
def Fault.message (format : String) : Fault → String
  | .unmatched position =>
    "unmatched '\x7d' at position " ++ toString position ++ " in \"" ++ format ++ "\""
  | .unterminated position =>
    "unterminated format item at position " ++ toString position ++ " in \"" ++ format ++ "\""
  | .malformed item =>
    "malformed format item '\x7b" ++ item ++ "\x7d' in \"" ++ format ++ "\""

/-! ## Items -/

/-- Splits at the first occurrence of a character, which belongs to neither side. -/
def splitOnce? (mark : Char) : (chars : List Char) → Option (List Char × List Char)
  | [] => none
  | char :: chars =>
    if char = mark then some ([], chars)
    else (splitOnce? mark chars).map fun (before, after) => (char :: before, after)

/-- The value of decimal digits. -/
def digitsValue (digits : List Char) : Nat :=
  digits.foldl (fun number digit => number * 10 + (digit.toNat - '0'.toNat)) 0

/-- Whether a character is one of the ten ASCII digits. -/
def isDigit (char : Char) : Bool :=
  '0' ≤ char && char ≤ '9'

/-- Reads a number below `limit`: at least one digit, with an optional plus sign in front. -/
def unsigned? (limit : Nat) (chars : List Char) : Option Nat :=
  let digits :=
    match chars with
    | '+' :: digits => digits
    | digits => digits
  if !digits.isEmpty && digits.all isDigit && digitsValue digits < limit then
    some (digitsValue digits)
  else none

/-- Reads the alignment of an item: a number below `2 ^ 32` with an optional minus sign in front,
and blanks around it. -/
def alignment? (chars : List Char) : Option String :=
  let trimmed := Text.trim chars
  let unsignedPart :=
    match trimmed with
    | '-' :: rest => rest
    | rest => rest
  (unsigned? UInt32.size unsignedPart).map fun _ => String.ofList trimmed

/-- Reads an item without its braces. -/
def placeholder? (item : List Char) : Option Placeholder :=
  let (item, format) :=
    match splitOnce? ':' item with
    | some (item, format) => (item, some (String.ofList format))
    | none => (item, none)
  match splitOnce? ',' item with
  | some (index, alignment) =>
    match alignment? alignment, unsigned? UInt64.size (Text.trim index) with
    | some alignment, some index => some ⟨index, some alignment, format⟩
    | _, _ => none
  | none =>
    match unsigned? UInt64.size (Text.trim item) with
    | some index => some ⟨index, none, format⟩
    | none => none

/-! ## Segments -/

/-- What has been read of a segment; characters are kept with the last one first. -/
inductive Reading where
  /-- A part of the literal. -/
  | literal (found : List Char)
  /-- The literal, and a part of the item that starts at a position. -/
  | item (literal : List Char) (start : Nat) (found : List Char)

/-- The segments of the text from a position on, behind what has been read. -/
def scan : (reading : Reading) → (position : Nat) → (text : List Char) →
    Except Fault (List Segment)
  | .literal [], _, [] => .ok []
  | .literal found, _, [] => .ok [⟨String.ofList found.reverse, none⟩]
  | .literal found, position, '\x7b' :: '\x7b' :: text =>
    scan (.literal ('\x7b' :: found)) (position + 2) text
  | .literal found, position, '\x7d' :: '\x7d' :: text =>
    scan (.literal ('\x7d' :: found)) (position + 2) text
  | .literal _, position, '\x7d' :: _ => .error (.unmatched position)
  | .literal found, position, '\x7b' :: text => scan (.item found position []) (position + 1) text
  | .literal found, position, char :: text =>
    scan (.literal (char :: found)) (position + char.utf8Size) text
  | .item _ start _, _, [] => .error (.unterminated start)
  | .item literal _ found, position, '\x7d' :: text =>
    match placeholder? found.reverse with
    | none => .error (.malformed (String.ofList found.reverse))
    | some placeholder =>
      (scan (.literal []) (position + 1) text).map fun segments =>
        ⟨String.ofList literal.reverse, some placeholder⟩ :: segments
  | .item literal start found, position, char :: text =>
    scan (.item literal start (char :: found)) (position + char.utf8Size) text

/-- Two braces of a kind stand for one. -/
theorem scan_doubled {found text : List Char} {position : Nat} {brace : Char}
    (special : brace = '\x7b' ∨ brace = '\x7d') :
    scan (.literal found) position (brace :: brace :: text) =
      scan (.literal (brace :: found)) (position + 2) text := by
  obtain rfl | rfl := special <;> simp only [scan]

/-- The segments of a format string. The empty one has a single empty segment. -/
def parse (format : String) : Except Fault (List Segment) :=
  (scan (.literal []) 0 format.toList).map fun segments =>
    if segments.isEmpty then [⟨"", none⟩] else segments

end AqlPipeline.FormatString
