/-!
# Words of a name

The names of a record and of its extension are derived from the method name by writing each of its
words with a capital.  A word is the longest of three shapes, tried in this order: a run of
capitals that stops before the last one when a small letter follows it, an optional capital with
small letters and digits, a run of capitals.  All other characters separate words.
-/

namespace Deferred.Text

/-- Small ASCII letters and digits: what follows the capital of a word. -/
def inWord (c : Char) : Bool :=
  c.isLower || c.isDigit

/-- The word at the front of a text and what follows it.  The word is empty when the text starts
with a character of no word. -/
def nextWord (text : List Char) : List Char × List Char :=
  let capitals := text.takeWhile Char.isUpper
  let after := text.dropWhile Char.isUpper
  if 2 ≤ capitals.length then
    if after.head?.any Char.isLower then
      (capitals.dropLast, capitals.drop (capitals.length - 1) ++ after)
    else (capitals, after)
  else
    let body := after.takeWhile inWord
    if !body.isEmpty then (capitals ++ body, after.dropWhile inWord)
    else if !capitals.isEmpty then (capitals, after)
    else ([], text.drop 1)

/-- The words of a text no longer than `bound`. -/
def wordsWithin : Nat → List Char → List (List Char)
  | 0, _ => []
  | _ + 1, [] => []
  | bound + 1, first :: rest =>
    match nextWord (first :: rest) with
    | ([], after) => wordsWithin bound after
    | (word, after) => word :: wordsWithin bound after

/-- The words of a text, in order. -/
def words (text : List Char) : List (List Char) :=
  wordsWithin text.length text

/-- A word with its first letter as a capital. -/
def capitalize : List Char → List Char
  | [] => []
  | first :: rest => first.toUpper :: rest

/-- A name in the casing of types: `do_sub` becomes `DoSub`, `fooBar` becomes `FooBar`. -/
def pascalCase (name : String) : String :=
  String.ofList ((words name.toList).flatMap capitalize)

@[simp] theorem length_capitalize (word : List Char) :
    (capitalize word).length = word.length := by
  cases word <;> rfl

end Deferred.Text
