/-!
# Searching a text without regard to case

Upper and lower case are those of ASCII letters; every other character stands only for itself.
A search splits the text at the first occurrence, and so speaks of texts and not of offsets.
-/

namespace AqlPipeline.Text

/-- Whether `text` begins with `token`, ignoring ASCII case. -/
def beginsWith : (token text : List Char) → Bool
  | [], _ => true
  | _ :: _, [] => false
  | wanted :: token, char :: text => wanted.toLower == char.toLower && beginsWith token text

/-- Splits `text` in front of the first occurrence of `token`, ignoring ASCII case. -/
def splitBefore? (token : List Char) : (text : List Char) → Option (List Char × List Char)
  | [] => if beginsWith token [] then some ([], []) else none
  | char :: text =>
    if beginsWith token (char :: text) then some ([], char :: text)
    else (splitBefore? token text).map fun (before, after) => (char :: before, after)

/-- Splits `text` behind the first occurrence of `token`, ignoring ASCII case. -/
def splitBehind? (token text : List Char) : Option (List Char × List Char) :=
  (splitBefore? token text).map fun (before, after) =>
    (before ++ after.take token.length, after.drop token.length)

/-- Whether `token` occurs in `text`, ignoring ASCII case. -/
def occursIn (token text : List Char) : Bool :=
  (splitBefore? token text).isSome

/-- Whether two texts are equal up to ASCII case. -/
def sameUpToCase (left right : String) : Bool :=
  left.toList.map Char.toLower == right.toList.map Char.toLower

end AqlPipeline.Text
