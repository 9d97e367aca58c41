import AqlPipeline.Double.Decimal
import AqlPipeline.Json.Basic
import AqlPipeline.Text.Utf8

/-!
# The words of JSON text

Scanners take the text still to be read and return what they found with the text behind it. One
that fails returns the text it has not looked at: the character it stumbled over is not in it, so
the line of a failure can be told from how much has been read.
-/

namespace AqlPipeline.Json

/-- Where reading stopped. -/
structure Stop where
  /-- The text that had not been looked at. -/
  rest : List Char

/-- The result of a scanner: a value and the text behind it. -/
abbrev Scanned (α : Type) := Except Stop (α × List Char)

/-- The line that has been reached when `rest` is left of `text`. -/
def lineAt (text rest : List Char) : Nat :=
  (text.take (text.length - rest.length)).count '\n' + 1

/-- Fails at the first character, if there is one. -/
def failAt {α : Type} (text : List Char) : Scanned α :=
  .error ⟨text.tail⟩

/-- Drops the blanks of JSON: space, tab, line feed and carriage return. -/
def skipBlanks (text : List Char) : List Char :=
  text.dropWhile fun char => char == ' ' || char == '\t' || char == '\n' || char == '\r'

/-- Reads the given characters. -/
def expect : (word text : List Char) → Scanned Unit
  | [], text => .ok ((), text)
  | _ :: _, [] => .error ⟨[]⟩
  | wanted :: word, char :: text =>
    if wanted = char then expect word text else .error ⟨text⟩

/-! ## Strings -/

/-- The value of a hexadecimal digit. -/
def hexValue? (char : Char) : Option Nat :=
  if '0' ≤ char ∧ char ≤ '9' then some (char.toNat - '0'.toNat)
  else if 'a' ≤ char ∧ char ≤ 'f' then some (char.toNat - 'a'.toNat + 10)
  else if 'A' ≤ char ∧ char ≤ 'F' then some (char.toNat - 'A'.toNat + 10)
  else none

/-- The value of four hexadecimal digits. -/
def hexValue4? (first second third fourth : Char) : Option Nat := do
  let a ← hexValue? first
  let b ← hexValue? second
  let c ← hexValue? third
  let d ← hexValue? fourth
  return ((a * 16 + b) * 16 + c) * 16 + d

/-- Where reading stops at four characters that are no hexadecimal digits: behind four bytes, or
at the end if there are fewer. -/
def stopInHex {α : Type} (text : List Char) : Scanned α :=
  if Text.byteSize text < 4 then .error ⟨[]⟩
  else .error ⟨text.drop (Text.takeBytes 4 text).length⟩

/-- The character that stands for an escape of one letter. -/
def escaped? (letter : Char) : Option Char :=
  match letter with
  | '\x22' => some '\x22'
  | '\\' => some '\\'
  | '/' => some '/'
  | 'b' => some '\x08'
  | 'f' => some '\x0c'
  | 'n' => some '\n'
  | 'r' => some '\r'
  | 't' => some '\t'
  | _ => none

/-- Whether a code is the first half of a surrogate pair. -/
def isLeading (code : Nat) : Bool :=
  0xD800 ≤ code && code ≤ 0xDBFF

/-- Whether a code is the second half of a surrogate pair. -/
def isTrailing (code : Nat) : Bool :=
  0xDC00 ≤ code && code ≤ 0xDFFF

/-- Reads a string behind its opening quote; `found` holds its characters so far, the last one
first. Halves of surrogate pairs have to come as pairs. -/
def scanString (found : List Char) : (text : List Char) → Scanned String
  | [] => .error ⟨[]⟩
  | '\x22' :: text => .ok (String.ofList found.reverse, text)
  | '\\' :: 'u' :: a :: b :: c :: d :: text =>
    match hexValue4? a b c d with
    | none => stopInHex (a :: b :: c :: d :: text)
    | some code =>
      if isTrailing code then .error ⟨text⟩
      else if isLeading code then
        match text with
        | '\\' :: 'u' :: e :: f :: g :: h :: text =>
          match hexValue4? e f g h with
          | none => stopInHex (e :: f :: g :: h :: text)
          | some low =>
            if isTrailing low then
              scanString (Char.ofNat ((code - 0xD800) * 0x400 + (low - 0xDC00) + 0x10000) :: found)
                text
            else .error ⟨text⟩
        | '\\' :: 'u' :: text => stopInHex text
        | '\\' :: text => failAt text
        | text => failAt text
      else scanString (Char.ofNat code :: found) text
  | '\\' :: 'u' :: text => stopInHex text
  | ['\\'] => .error ⟨[]⟩
  | '\\' :: letter :: text =>
    match escaped? letter with
    | some char => scanString (char :: found) text
    | none => .error ⟨text⟩
  | char :: text => if char.toNat < 0x20 then .error ⟨text⟩ else scanString (char :: found) text

/-- Reads over a string behind its opening quote. Any four hexadecimal digits will do for an
escape, and a control character stops the reading in front of it. -/
def skipString : (text : List Char) → Scanned Unit
  | [] => .error ⟨[]⟩
  | '\x22' :: text => .ok ((), text)
  | '\\' :: 'u' :: a :: b :: c :: d :: text =>
    if (hexValue4? a b c d).isSome then skipString text
    else stopInHex (a :: b :: c :: d :: text)
  | '\\' :: 'u' :: text => stopInHex text
  | ['\\'] => .error ⟨[]⟩
  | '\\' :: letter :: text => if (escaped? letter).isSome then skipString text else .error ⟨text⟩
  | char :: text => if char.toNat < 0x20 then .error ⟨char :: text⟩ else skipString text

/-! ## Numbers -/

/-- Whether a character is a decimal digit. -/
def isDigit (char : Char) : Bool :=
  '0' ≤ char && char ≤ '9'

/-- The value of a decimal digit. -/
def digitValue (char : Char) : Nat :=
  char.toNat - '0'.toNat

/-- Adds digits to a number for as long as it stays below `2 ^ 64`, and counts those left over. -/
def gather : (number : Nat) → (digits : List Char) → Nat × Nat
  | number, [] => (number, 0)
  | number, digit :: digits =>
    if number * 10 + digitValue digit < UInt64.size then
      gather (number * 10 + digitValue digit) digits
    else (number, digits.length + 1)

/-- A number as written: sign, digits before and behind the point, and exponent. -/
structure Numeral where
  /-- Whether there is a minus sign. -/
  negative : Bool
  /-- The digits before the point. -/
  whole : List Char
  /-- The digits behind the point, if there is one. -/
  fraction : Option (List Char)
  /-- The exponent, if there is one. -/
  exponent : Option Int

/-- The value of a numeral. Without point and exponent it is an integer, if it fits in 64 bits,
with sign when it has one; a negative zero and everything else is a double. There is no value for a
number too large to be finite. -/
def Numeral.value? (numeral : Numeral) : Option Json :=
  let (whole, dropped) := gather 0 numeral.whole
  if dropped = 0 ∧ numeral.fraction = none ∧ numeral.exponent = none ∧ ¬ numeral.negative then
    some (.integer whole)
  else if dropped = 0 ∧ numeral.fraction = none ∧ numeral.exponent = none ∧
      0 < whole ∧ whole ≤ 0x8000000000000000 then
    some (.integer (-whole))
  else
    let fraction := numeral.fraction.getD []
    let (significand, surplus) := gather whole fraction
    let power : Int := dropped - (fraction.length - surplus : Nat) + numeral.exponent.getD 0
    (Double.ofDecimal? numeral.negative significand power).map .float

/-- Reads an exponent, if there is one. -/
def scanExponent : (text : List Char) → Scanned (Option Int)
  | mark :: text =>
    if mark == 'e' || mark == 'E' then
      let (negative, text) :=
        match text with
        | '+' :: text => (false, text)
        | '-' :: text => (true, text)
        | text => (false, text)
      let digits := text.takeWhile isDigit
      if digits.isEmpty then failAt text
      else
        let size : Nat := digits.foldl (fun number digit => number * 10 + digitValue digit) 0
        .ok (some (if negative then -(size : Int) else size), text.dropWhile isDigit)
    else .ok (none, mark :: text)
  | [] => .ok (none, [])

/-- Reads the digits behind a point, if there is one. -/
def scanFraction : (text : List Char) → Scanned (Option (List Char))
  | '.' :: text =>
    if (text.takeWhile isDigit).isEmpty then failAt text
    else .ok (some (text.takeWhile isDigit), text.dropWhile isDigit)
  | text => .ok (none, text)

/-- Reads a numeral behind its sign. A zero can only be the single digit before the point. -/
def scanNumeral (negative : Bool) (text : List Char) : Except Stop (Numeral × List Char) := do
  let whole := text.takeWhile isDigit
  match whole with
  | [] => failAt text
  | '0' :: _ :: _ => failAt text.tail
  | _ =>
    let (fraction, text) ← scanFraction (text.dropWhile isDigit)
    let (exponent, text) ← scanExponent text
    return (⟨negative, whole, fraction, exponent⟩, text)

/-- Reads a number behind its sign. -/
def scanNumber (negative : Bool) (text : List Char) : Except Stop (Json × List Char) := do
  let (numeral, text) ← scanNumeral negative text
  match numeral.value? with
  | some value => return (value, text)
  | none => throw ⟨text⟩

end AqlPipeline.Json
