/-!
# Byte offsets into a text

Offsets and lengths count the bytes of the UTF-8 form. A text can be cut only between characters.
-/

namespace AqlPipeline.Text

/-- The number of bytes of a list of characters. -/
def byteSize : List Char → Nat
  | [] => 0
  | char :: chars => char.utf8Size + byteSize chars

/-- The longest beginning of `chars` of at most `count` bytes. -/
def takeBytes : (count : Nat) → (chars : List Char) → List Char
  | _, [] => []
  | count, char :: chars =>
    if char.utf8Size ≤ count then char :: takeBytes (count - char.utf8Size) chars else []

/-- Splits `chars` behind its first `count` bytes, if a character ends there. -/
def splitBytes? : (count : Nat) → (chars : List Char) → Option (List Char × List Char)
  | 0, chars => some ([], chars)
  | _ + 1, [] => none
  | count + 1, char :: chars =>
    if char.utf8Size ≤ count + 1 then
      (splitBytes? (count + 1 - char.utf8Size) chars).map fun (before, after) =>
        (char :: before, after)
    else none

/-- The `length` bytes of `text` from `offset` on, if both ends are between characters. -/
def slice? (text : String) (offset length : Nat) : Option String := do
  let (_, after) ← splitBytes? offset text.toList
  let (part, _) ← splitBytes? length after
  return String.ofList part

end AqlPipeline.Text
