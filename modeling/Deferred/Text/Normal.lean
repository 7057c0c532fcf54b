import Deferred.Text.Normal.Table

/-!
# The normal spelling of names

Names are compared in their normal spelling: every compatibility character is replaced by what it
stands for, and a mark is joined to the letter before it where the two make one letter.  A name in
plain ASCII is its own normal spelling.
-/

namespace Deferred.Text.Normal

/-- The character after a given one in a text of pairs. -/
def paired? (c : Char) : List Char → Option Char
  | a :: b :: rest => if a = c then some b else paired? c rest
  | _ => none

/-- The characters after a given one in a text of blank-separated entries. -/
def expanded? (c : Char) : List (List Char) → Option (List Char)
  | [] => none
  | [] :: rest => expanded? c rest
  | (first :: others) :: rest => if first = c then some others else expanded? c rest

/-- The letter that two characters make in a text of triples. -/
def composed? (first second : Char) : List Char → Option Char
  | a :: b :: c :: rest => if a = first ∧ b = second then some c else composed? first second rest
  | _ => none

/-- What a character stands for. -/
def replaced (c : Char) : List Char :=
  if c.toNat < 128 then [c]
  else
    match replacements.findSome? fun line => paired? c line.toList with
    | some other => [other]
    | none =>
      (expansions.findSome? fun line =>
        expanded? c ((line.splitOn " ").map String.toList)).getD [c]

/-- A leading and a vowel part, or a syllable and a trailing part, make a syllable. -/
def syllable? (first second : Char) : Option Char :=
  let a := first.toNat
  let b := second.toNat
  if 0x1100 ≤ a && a < 0x1113 && 0x1161 ≤ b && b < 0x1176 then
    some (Char.ofNat (0xac00 + ((a - 0x1100) * 21 + (b - 0x1161)) * 28))
  else if 0xac00 ≤ a && a < 0xd7a4 && (a - 0xac00) % 28 = 0 && 0x11a7 < b && b < 0x11c3 then
    some (Char.ofNat (a + (b - 0x11a7)))
  else none

/-- The letter that two characters make. -/
def joined? (first second : Char) : Option Char :=
  if second.toNat < 128 then none
  else
    match syllable? first second with
    | some letter => some letter
    | none => compositions.findSome? fun line => composed? first second line.toList

/-- The two characters that make a letter in a text of triples. -/
def parts? (letter : Char) : List Char → Option (Char × Char)
  | a :: b :: c :: rest => if c = letter then some (a, b) else parts? letter rest
  | _ => none

/-- The parts of a syllable. -/
def syllableParts? (letter : Char) : Option (Char × Char) :=
  let index := letter.toNat - 0xac00
  if letter.toNat < 0xac00 || 0xd7a4 ≤ letter.toNat then none
  else if index % 28 = 0 then
    some (Char.ofNat (0x1100 + index / 588), Char.ofNat (0x1161 + index / 28 % 21))
  else some (Char.ofNat (letter.toNat - index % 28), Char.ofNat (0x11a7 + index % 28))

/-- A letter taken apart into a letter and marks, in at most `bound` steps. -/
def takenApart : Nat → Char → List Char
  | 0, c => [c]
  | bound + 1, c =>
    if c.toNat < 128 then [c]
    else
      match (syllableParts? c).or (compositions.findSome? fun line => parts? c line.toList) with
      | some (first, second) => takenApart bound first ++ [second]
      | none => [c]

/-- The class of a mark; letters are of class zero. -/
def markClass (c : Char) : Nat :=
  if c.toNat < 0x300 then 0
  else
    ((markClasses.find? fun (_, ranges) =>
      ranges.any fun (first, last) => first ≤ c.toNat && c.toNat ≤ last).map Prod.fst).getD 0

/-- Put a mark among the marks before it, given from the last to the first: behind those of its
class or a lower one. -/
def placeMark (mark : Char) : List Char → List Char
  | [] => [mark]
  | last :: sofar =>
    if markClass mark ≠ 0 && markClass mark < markClass last then last :: placeMark mark sofar
    else mark :: last :: sofar

/-- The marks behind each letter in the order of their classes. -/
def ordered (letters : List Char) : List Char :=
  (letters.foldl (fun sofar c => placeMark c sofar) []).reverse

/-- Join marks to a letter; `waiting` are the marks behind the letter that do not join it, from the
last to the first.  A mark joins the letter unless one of its class or a higher one stands between
them. -/
def joinTo (letter : Char) (waiting : List Char) : List Char → List Char
  | [] => letter :: waiting.reverse
  | c :: rest =>
    let blocked := match waiting with
      | [] => false
      | last :: _ => markClass c ≤ markClass last
    match if blocked then none else joined? letter c with
    | some made => joinTo made waiting rest
    | none =>
      if markClass c = 0 then letter :: waiting.reverse ++ joinTo c [] rest
      else joinTo letter (c :: waiting) rest

/-- Join marks to the letters before them. -/
def join : List Char → List Char
  | [] => []
  | c :: rest => joinTo c [] rest

end Normal

/-- The normal spelling of a name. -/
def normalName (name : String) : String :=
  if name.toList.all fun c => c.toNat < 128 then name
  else
    let parts := (name.toList.flatMap Normal.replaced).flatMap (Normal.takenApart 8)
    String.ofList (Normal.join (Normal.ordered parts))

/-- A plain name is its own normal spelling. -/
theorem normalName_of_ascii {name : String} (h : name.toList.all (fun c => c.toNat < 128) = true) :
    normalName name = name := by
  simp [normalName, h]

end Deferred.Text
