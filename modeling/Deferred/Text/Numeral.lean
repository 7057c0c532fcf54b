import Deferred.Text.CodePoint

/-!
# Names that open with a digit

A name cannot open with a digit: its characters are read as a number first, and what is wrong with
the text is told of that number.  The number takes as many characters as it can.  A letter right
behind it is refused, unless it opens one of the words that may follow a number; then only the
number itself is out of place.
-/

namespace Deferred.Text.Numeral

/-- The words that may stand right behind a number. -/
def followers : List String := ["and", "else", "for", "if", "in", "is", "not", "or"]

/-- What is said of a number where a name is wanted. -/
def outOfPlace : String := "invalid syntax"

/-- What is said of a number that is not written as one of its kind. -/
def malformed (kind : String) : String := "invalid " ++ kind ++ " literal"

/-- What is said where a number ends. -/
def atEnd (kind : String) (rest : List Char) : String :=
  if followers.any fun word => word.toList.isPrefixOf rest then outOfPlace
  else if rest.head?.any CodePoint.continuesName then malformed kind
  else outOfPlace

/-- What is said where the last digits of a decimal number end. -/
def afterLastDigits : List Char → String
  | 'j' :: rest => atEnd "imaginary" rest
  | 'J' :: rest => atEnd "imaginary" rest
  | rest => atEnd "decimal" rest

/-- Does an exponent open a text?  Without digits it is none. -/
def opensExponent : List Char → Bool
  | letter :: rest => (letter = 'e' || letter = 'E') && rest.head?.any Char.isDigit
  | [] => false

/-- What is said where the first digits of a decimal number end. -/
def afterDigits (rest : List Char) : String :=
  if opensExponent rest then afterLastDigits ((rest.drop 1).dropWhile Char.isDigit)
  else afterLastDigits rest

/-- Is a character a digit in a base of at most ten, or in base sixteen? -/
def isDigitIn (base : Nat) (c : Char) : Bool :=
  if c.isDigit then c.toNat - 48 < base
  else base = 16 && 'a' ≤ c.toLower && c.toLower ≤ 'f'

/-- What is said of a number in another base, by what follows the letter of the base. -/
def inBase (kind : String) (base : Nat) (text : List Char) : String :=
  let rest := text.dropWhile (isDigitIn base)
  if rest.head?.any Char.isDigit then
    "invalid digit '" ++ String.ofList (rest.take 1) ++ "' in " ++ kind ++ " literal"
  else if rest.length = text.length then malformed kind
  else atEnd kind rest

/-- What is said of a number that opens with a zero, by what follows the zero. -/
def afterZero (text : List Char) : String :=
  let others := text.dropWhile (· = '0')
  let rest := others.dropWhile Char.isDigit
  if others.head?.any Char.isDigit && !rest.head?.any ['e', 'E', 'j', 'J'].contains then
    "leading zeros in decimal integer literals are not permitted; " ++
      "use an 0o prefix for octal integers"
  else afterDigits rest

/-- What is wrong with a name that opens with a digit. -/
def fault? : List Char → Option String
  | '0' :: letter :: rest =>
    match letter.toLower with
    | 'x' => some (inBase "hexadecimal" 16 rest)
    | 'o' => some (inBase "octal" 8 rest)
    | 'b' => some (inBase "binary" 2 rest)
    | _ => some (afterZero (letter :: rest))
  | first :: rest =>
    if first.isDigit then some (afterDigits (rest.dropWhile Char.isDigit)) else none
  | [] => none

/-- Something is said of just those texts that open with a digit. -/
theorem isSome_fault? (text : List Char) :
    (fault? text).isSome = text.head?.any Char.isDigit := by
  rw [fault?.eq_def]
  split
  · split <;> rfl
  · rename_i first rest _
    cases isDigit : first.isDigit <;> simp [isDigit]
  · rfl

example : fault? "1Command".toList = some "invalid decimal literal" := by decide
example : fault? "0x1Command".toList = some "invalid hexadecimal literal" := by decide
example : fault? "1andCommand".toList = some "invalid syntax" := by decide

end Deferred.Text.Numeral
