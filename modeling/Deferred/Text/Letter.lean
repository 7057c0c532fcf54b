import Deferred.Text.CodePoint
import Deferred.Text.Letter.Table

/-!
# Letters and their cases

Letters have an upper-case form, a lower-case form, a form at the start of a word, and one for
comparing without case; each is one character or several.  Digits and other characters can stand
for numbers.  ASCII is spelled out with core's own functions, so that facts about plain text never
look into a table.
-/

namespace Deferred.Text.Letter

/-- Does a code point lie on one of the stepped ranges? -/
def stepped (ranges : List Steps) (point : Nat) : Bool :=
  ranges.any fun (first, last, step) =>
    first ≤ point && point ≤ last && (point - first) % step = 0

/-- The other form of a code point. -/
def shifted? (forms : List Shift) (point : Nat) : Option Nat :=
  forms.findSome? fun (first, last, step, distance) =>
    if first ≤ point && point ≤ last && (point - first) % step = 0 then
      some ((point : Int) + distance).toNat
    else none

/-- The form of a character in one of the cases, if a table has one. -/
def form? (long : List (Nat × List Nat)) (short : List Shift) (c : Char) : Option (List Char) :=
  match long.lookup c.toNat with
  | some points => some (points.map Char.ofNat)
  | none => (shifted? short c.toNat).map fun point => [Char.ofNat point]

/-- The upper-case form of a character. -/
def upper (c : Char) : List Char :=
  if c.toNat < 128 then [c.toUpper] else (form? longUpperForms upperForms c).getD [c]

/-- The lower-case form of a character, wherever it stands. -/
def lower (c : Char) : List Char :=
  if c.toNat < 128 then [c.toLower]
  else if c = 'İ' then ['i', '\u0307'] else (form? [] lowerForms c).getD [c]

/-- The form of a character at the start of a word. -/
def title (c : Char) : List Char :=
  if c.toNat < 128 then [c.toUpper] else (form? longTitleForms titleForms c).getD (upper c)

/-- The form of a character for comparing without case. -/
def folded (c : Char) : List Char :=
  if c.toNat < 128 then [c.toLower] else (form? longFoldedForms foldedForms c).getD (lower c)

/-- Is a character upper-case? -/
def isUpper (c : Char) : Bool :=
  if c.toNat < 128 then c.isUpper else stepped upperCase c.toNat

/-- Is a character lower-case? -/
def isLower (c : Char) : Bool :=
  if c.toNat < 128 then c.isLower else stepped lowerCase c.toNat

/-- Is a character upper-case and lower-case at once? -/
def isTitle (c : Char) : Bool := CodePoint.within titleCase c.toNat

/-- Has a character forms in several cases? -/
def isCased (c : Char) : Bool := isUpper c || isLower c || isTitle c

/-- Is a character a letter? -/
def isLetter (c : Char) : Bool :=
  if c.toNat < 128 then c.isAlpha
  else (CodePoint.startsName c && !CodePoint.within nameOnly c.toNat) ||
    CodePoint.within letterOnly c.toNat

/-- The value of a decimal digit. -/
def decimal? (c : Char) : Option Nat :=
  if c.toNat < 128 then if c.isDigit then some (c.toNat - 48) else none
  else (zeros.find? fun first => first ≤ c.toNat && c.toNat < first + 10).map (c.toNat - ·)

/-- Is a character a digit of any kind? -/
def isDigit (c : Char) : Bool := (decimal? c).isSome || CodePoint.within otherDigits c.toNat

/-- Does a character stand for a number? -/
def isNumeric (c : Char) : Bool := isDigit c || CodePoint.within otherNumbers c.toNat

/-- Is a character a letter, or does it stand for a number? -/
def isAlphanumeric (c : Char) : Bool := isLetter c || isNumeric c

/-- Is a character a blank?  Line ends and separators of fields and records are. -/
def isBlank (c : Char) : Bool :=
  [0x20, 0x85, 0xa0, 0x1680, 0x2028, 0x2029, 0x202f, 0x205f, 0x3000].contains c.toNat ||
    [(0x9, 0xd), (0x1c, 0x1f), (0x2000, 0x200a)].any fun (first, last) =>
      first ≤ c.toNat && c.toNat ≤ last

/-- Does a character end a line? -/
def endsLine (c : Char) : Bool :=
  [0x85, 0x2028, 0x2029].contains c.toNat ||
    [(0xa, 0xd), (0x1c, 0x1e)].any fun (first, last) => first ≤ c.toNat && c.toNat ≤ last

theorem isBlank_of_isWhitespace {c : Char} (white : c.isWhitespace) : isBlank c := by
  simp only [Char.isWhitespace, Bool.or_eq_true, decide_eq_true_eq] at white
  rcases white with ((rfl | rfl) | rfl) | rfl <;> decide

/-! ## Texts in one case -/

/-- Is a character passed over when the letters beside another are looked for?  Marks, apostrophes
and points are. -/
def isPassedOver (c : Char) : Bool :=
  ['\'', '.', ':', '^', '\x60', '¨', '\u00ad', '¯', '´', '·', '¸', '‘', '’', '․', '‧'].contains c ||
    (0x2b0 ≤ c.toNat && c.toNat ≤ 0x36f)

/-- Is the first character that is not passed over one with forms in several cases? -/
def besideLetter (letters : List Char) : Bool :=
  match letters.dropWhile isPassedOver with
  | [] => false
  | c :: _ => isCased c

/-- The lower-case form of a character between others, those before it given from the last to the
first.  A sigma that ends a word has a form of its own. -/
def lowerBetween (before : List Char) (c : Char) (after : List Char) : List Char :=
  if c = 'Σ' then [if besideLetter before && !besideLetter after then 'ς' else 'σ'] else lower c

/-- Every character in a form that may depend on those around it; `before` holds the characters
before it, the last one first. -/
def mapBetween (form : List Char → Char → List Char → List Char) (before : List Char) :
    List Char → List Char
  | [] => []
  | c :: rest => form before c rest ++ mapBetween form (c :: before) rest

/-- A text in upper case. -/
def upperText (letters : List Char) : List Char := letters.flatMap upper

/-- A text in lower case. -/
def lowerText (letters : List Char) : List Char := mapBetween lowerBetween [] letters

/-- A text that can be compared without case. -/
def foldedText (letters : List Char) : List Char := letters.flatMap folded

/-- A text whose first character starts a word, the rest in lower case. -/
def capitalized (letters : List Char) : List Char :=
  mapBetween (fun before c after =>
    if before.isEmpty then title c else lowerBetween before c after) [] letters

/-- A text each of whose words starts with a form for that, the rest in lower case. -/
def titled (letters : List Char) : List Char :=
  mapBetween (fun before c after =>
    if (before.head?.map isCased).getD false then lowerBetween before c after else title c) [] letters

/-- A text with upper and lower case exchanged. -/
def swapped (letters : List Char) : List Char :=
  mapBetween (fun before c after =>
    if isUpper c then lowerBetween before c after
    else if isLower c then upper c else [c]) [] letters

/-- Are there letters with cases, all of them in upper case? -/
def isUpperText (letters : List Char) : Bool :=
  letters.any isUpper && !letters.any fun c => isLower c || isTitle c

/-- Are there letters with cases, all of them in lower case? -/
def isLowerText (letters : List Char) : Bool :=
  letters.any isLower && !letters.any fun c => isUpper c || isTitle c

/-- Does every word start in upper case and go on in lower case?  `inWord` says whether a letter
with cases stands right before. -/
def startsWords (inWord : Bool) : List Char → Bool
  | [] => true
  | c :: rest =>
    if isUpper c || isTitle c then !inWord && startsWords true rest
    else if isLower c then inWord && startsWords true rest
    else startsWords false rest

/-- Are there words, all of them starting in upper case and going on in lower case? -/
def isTitledText (letters : List Char) : Bool :=
  letters.any isCased && startsWords false letters

@[simp] theorem upper_of_ascii {c : Char} (small : c.toNat < 128) : upper c = [c.toUpper] := by
  simp [upper, small]

@[simp] theorem isLetter_of_ascii {c : Char} (small : c.toNat < 128) :
    isLetter c = c.isAlpha := by
  simp [isLetter, small]

end Deferred.Text.Letter
