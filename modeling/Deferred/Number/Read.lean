import Deferred.Number.Fraction
import Deferred.Text.Letter
import Deferred.Text.Search

/-!
# Numbers that texts spell

Whole numbers are spelled in a base from two to thirty-six, floats in decimal with an optional
exponent, complex numbers as one or two floats.  Blanks may stand around a number, and a single
underscore between two of its digits.  Decimal digits of every script count.
-/

namespace Deferred.Number.Read

open Deferred.Text

/-- A text as the characters of a number: digits of any script and blanks in their plain form. -/
def plain (text : List Char) : List Char :=
  text.map fun c =>
    match Letter.decimal? c with
    | some digit => Char.ofNat (48 + digit)
    | none => if Letter.isBlank c then ' ' else c

/-- Characters without the blanks around them. -/
def trimmed (letters : List Char) : List Char := trimEnd Letter.isBlank (trimStart Letter.isBlank letters)

/-- The value of a digit in any base. -/
def digit? (c : Char) : Option Nat :=
  if c.isDigit then some (c.toNat - 48)
  else if 'a' ≤ c && c ≤ 'z' then some (c.toNat - 87)
  else if 'A' ≤ c && c ≤ 'Z' then some (c.toNat - 55)
  else none

/-- The sign that a text starts with, and what follows it. -/
def sign : List Char → Bool × List Char
  | '-' :: rest => (true, rest)
  | '+' :: rest => (false, rest)
  | letters => (false, letters)

/-- Are underscores only between other characters, one at a time? -/
def isSpaced : List Char → Bool
  | [] => true
  | '_' :: _ => false
  | _ :: '_' :: rest =>
    match rest with
    | [] => false
    | '_' :: _ => false
    | c :: rest => isSpaced (c :: rest)
  | _ :: rest => isSpaced rest

/-- The natural number that digits of a base spell. -/
def digits? (base : Nat) (letters : List Char) : Option Nat :=
  if letters.isEmpty || !isSpaced letters then none
  else (letters.filter (· ≠ '_')).foldl (fun sofar c =>
    match sofar, digit? c with
    | some value, some digit => if digit < base then some (base * value + digit) else none
    | _, _ => none) (some 0)

/-- The base that the letter behind a leading zero stands for. -/
def baseOf? (c : Char) : Option Nat :=
  if c = 'x' || c = 'X' then some 16
  else if c = 'o' || c = 'O' then some 8
  else if c = 'b' || c = 'B' then some 2
  else none

/-- Characters behind a mark of their base, of which one underscore is part. -/
def withoutMark (base : Nat) : List Char → List Char
  | '0' :: mark :: rest =>
    if baseOf? mark = some base then
      match rest with
      | '_' :: rest => rest
      | rest => rest
    else '0' :: mark :: rest
  | letters => letters

/-- The natural number that characters spell; base zero means that they tell their base. -/
def natural? (base : Nat) (letters : List Char) : Option Nat :=
  if base ≠ 0 then digits? base (withoutMark base letters)
  else
    match letters with
    | '0' :: rest =>
      match rest.head?.bind baseOf? with
      | some base => digits? base (withoutMark base letters)
      | none => (digits? 10 letters).bind fun value => if value = 0 then some 0 else none
    | letters => digits? 10 letters

/-- The whole number that a text spells in a base. -/
def whole? (base : Nat) (text : List Char) : Option Int :=
  let (negative, letters) := sign (trimmed (plain text))
  (natural? base letters).map fun value => if negative then -(value : Int) else value

/-! ## Floats -/

/-- The longest row of digits at the start of some characters, with underscores between them, and
what follows. -/
def row : Nat → List Char → List Char × List Char
  | 0, letters => ([], letters)
  | bound + 1, c :: rest =>
    if c.isDigit then
      match rest with
      | '_' :: next :: others =>
        if next.isDigit then
          let (more, left) := row bound (next :: others)
          (c :: more, left)
        else ([c], rest)
      | rest =>
        let (more, left) := row bound rest
        (c :: more, left)
    else ([], c :: rest)
  | _, [] => ([], [])

/-- The row of digits at the start of some characters, and what follows. -/
def digitRow (letters : List Char) : List Char × List Char := row letters.length letters

/-- The value of a row of digits. -/
def rowValue (digits : List Char) : Nat :=
  digits.foldl (fun sofar c => 10 * sofar + (c.toNat - 48)) 0

/-- The float nearest to a decimal. -/
def decimal (digits : List Char) (scale : Int) : Float :=
  let value := rowValue digits
  let size : Int := scale + digits.length
  if value = 0 || size < -400 then 0.0
  else if 400 + (digits.length : Int) < size then 1.0 / 0.0
  else Float.ofScientific value (scale < 0) scale.natAbs

/-- The exponent at the start of some characters, if one stands there, and what follows. -/
def exponent (letters : List Char) : Int × List Char :=
  match letters with
  | mark :: rest =>
    if mark = 'e' || mark = 'E' then
      let (negative, rest) := sign rest
      match digitRow rest with
      | ([], _) => (0, letters)
      | (digits, rest) =>
        let size : Int := min (rowValue digits) 1000000
        (if negative then -size else size, rest)
    else (0, letters)
  | [] => (0, [])

/-- A word at the start of some characters, in either case, and what follows it. -/
def word? (word : String) (letters : List Char) : Option (List Char) :=
  let size := word.length
  if (letters.take size).map Char.toLower = word.toList then some (letters.drop size) else none

/-- The float without a sign at the start of some characters, if one stands there, and what
follows. -/
def unsigned? (letters : List Char) : Option (Float × List Char) :=
  match word? "infinity" letters, word? "inf" letters, word? "nan" letters with
  | some rest, _, _ => some (1.0 / 0.0, rest)
  | none, some rest, _ => some (1.0 / 0.0, rest)
  | none, none, some rest => some ((0.0 / 0.0 : Float).abs, rest)
  | none, none, none =>
    let (before, rest) := digitRow letters
    let (behind, rest) := match rest with
      | '.' :: rest => digitRow rest
      | rest => ([], rest)
    if before.isEmpty && behind.isEmpty then none
    else
      let (scale, rest) := exponent rest
      some (decimal (before ++ behind) (scale - behind.length), rest)

/-- The float at the start of some characters, if one stands there, and what follows. -/
def scan? (letters : List Char) : Option (Float × List Char) :=
  let (negative, rest) := sign letters
  (unsigned? rest).map fun (value, rest) => (if negative then -value else value, rest)

/-- The float that a text spells. -/
def float? (text : List Char) : Option Float :=
  match scan? (trimmed (plain text)) with
  | some (value, []) => some value
  | _ => none

/-! ## Complex numbers -/

/-- Is this the letter of the second part? -/
def isUnit (c : Char) : Bool := c = 'j' || c = 'J'

/-- The second part of a complex number, to the end of the text: a signed float or a sign alone,
with the letter of the second part. -/
def second? (letters : List Char) : Option Float :=
  match scan? letters with
  | some (value, [unit]) => if isUnit unit then some value else none
  | some _ => none
  | none =>
    match sign letters with
    | (negative, [unit]) =>
      if isUnit unit then some (if negative then -1.0 else 1.0) else none
    | _ => none

/-- The complex number that characters without blanks around them spell. -/
def parts? (letters : List Char) : Option (Float × Float) :=
  match scan? letters with
  | some (value, []) => some (value, 0.0)
  | some (value, '+' :: rest) => (second? ('+' :: rest)).map (value, ·)
  | some (value, '-' :: rest) => (second? ('-' :: rest)).map (value, ·)
  | _ => (second? letters).map (0.0, ·)

/-- The complex number that a text spells.  It may stand in parentheses. -/
def complex? (text : List Char) : Option (Float × Float) :=
  let letters := trimmed (plain text)
  match letters with
  | '(' :: rest =>
    match rest.reverse with
    | ')' :: inner => parts? (trimmed inner.reverse)
    | _ => none
  | letters => parts? letters

end Deferred.Number.Read
