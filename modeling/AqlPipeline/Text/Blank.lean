/-!
# Blank characters

The characters with the Unicode property `White_Space`, and trimming them off a text.
-/

namespace AqlPipeline.Text

/-- Whether a character is white space: the 25 characters of the Unicode property. The zero width
space U+200B and the byte order mark U+FEFF are not among them. -/
def isBlank (char : Char) : Bool :=
  let code := char.toNat
  (0x9 ≤ code && code ≤ 0xD) || code == 0x20 || code == 0x85 || code == 0xA0 || code == 0x1680 ||
    (0x2000 ≤ code && code ≤ 0x200A) || code == 0x2028 || code == 0x2029 || code == 0x202F ||
    code == 0x205F || code == 0x3000

/-- Drops the characters at the end that satisfy `test`. -/
def dropRightWhile (test : Char → Bool) (chars : List Char) : List Char :=
  (chars.reverse.dropWhile test).reverse

/-- Drops the blanks at both ends. -/
def trim (chars : List Char) : List Char :=
  dropRightWhile isBlank (chars.dropWhile isBlank)

/-- Drops the blanks at the end. -/
def trimRight (text : String) : String :=
  String.ofList (dropRightWhile isBlank text.toList)

/-- Whether a text holds nothing but blanks. -/
def isAllBlank (text : String) : Bool :=
  text.toList.all isBlank

end AqlPipeline.Text
