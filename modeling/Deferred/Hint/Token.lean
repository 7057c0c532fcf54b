import Deferred.Text.Normal
import Deferred.Text.Quoted
import Deferred.Text.Identifier

/-!
# The tokens of written annotations

The text of an annotation is cut into words, numbers, quoted texts and signs.  Blanks separate
tokens and say nothing else; a line may end only inside brackets, unless it or all that follows says
nothing.  Quoted text
has one or three marks, may be escaped, and may carry a letter that says nothing (`u`) or that keeps
its escapes (`r`).
-/

namespace Deferred.Hint

open Deferred.Text

/-- The pieces a reader sees. -/
inductive Token where
  | word (name : String)
  | number (value : Nat)
  /-- A number with a point or an exponent. -/
  | fraction (value : Float)
  /-- Quoted text; the flag tells whether it opens with the letter that says nothing. -/
  | text (value : String) (marked : Bool)
  | sign (mark : Char)
  | dots
  deriving Repr, BEq, Inhabited

namespace Token

/-- The value of a digit in a base up to sixteen. -/
def digit? (base : Nat) (c : Char) : Option Nat :=
  let value :=
    if c.isDigit then c.toNat - 48
    else if 'a' ≤ c && c ≤ 'f' then c.toNat - 87
    else if 'A' ≤ c && c ≤ 'F' then c.toNat - 55
    else 16
  if value < base then some value else none

/-- The value of some digits, without the strokes that group them. -/
def valueOf (base : Nat) (digits : List Char) : Nat :=
  digits.foldl (fun sofar c => base * sofar + (digit? base c).getD 0) 0

/-- The digits that open a text, and the rest.  A single stroke may stand between two digits, and
in front of the first where `opened` allows it. -/
def digits (base : Nat) (opened : Bool) : List Char → List Char × List Char
  | '_' :: c :: rest =>
    if opened && (digit? base c).isSome then
      let (more, after) := digits base true rest
      (c :: more, after)
    else ([], '_' :: c :: rest)
  | c :: rest =>
    if (digit? base c).isSome then
      let (more, after) := digits base true rest
      (c :: more, after)
    else ([], c :: rest)
  | [] => ([], [])

/-- The base that a letter after a leading zero announces. -/
def base? (c : Char) : Option Nat :=
  if c = 'x' ∨ c = 'X' then some 16 else if c = 'o' ∨ c = 'O' then some 8
  else if c = 'b' ∨ c = 'B' then some 2 else none

/-- Read a whole number that opens with a digit. -/
def readNumber (input : List Char) : Option (Nat × List Char) :=
  let plain : Option (Nat × List Char) :=
    let (found, rest) := digits 10 false input
    if found.head? = some '0' && found.any (· ≠ '0') then none
    else if rest.head?.any fun c => CodePoint.continuesName c || c = '.' then none
    else some (valueOf 10 found, rest)
  match input with
  | '0' :: letter :: after =>
    match base? letter with
    | some base =>
      let (found, rest) := digits base true after
      if found.isEmpty || rest.head?.any CodePoint.continuesName then none
      else some (valueOf base found, rest)
    | none => plain
  | _ => plain

/-- The exponent that some characters open with: a letter, a sign if need be, and digits. -/
def readExponent : List Char → Option (Int × List Char)
  | letter :: rest =>
    if letter = 'e' ∨ letter = 'E' then
      let (negative, rest) := match rest with
        | '-' :: after => (true, after)
        | '+' :: after => (false, after)
        | rest => (false, rest)
      let (found, after) := digits 10 false rest
      if found.isEmpty then none
      else
        let size : Int := valueOf 10 found
        some (if negative then -size else size, after)
    else none
  | [] => none

/-- The number with some digits and a power of ten.  Past the bound on the power, which grows with
the number of digits, every such number is zero or too large. -/
def scientific (found : List Char) (power : Int) : Float :=
  let bound : Int := 400 + found.length
  let power := max (-bound) (min bound power)
  Float.ofScientific (valueOf 10 found) (power < 0) power.natAbs

/-- Read a number with a point or an exponent. -/
def readFraction (input : List Char) : Option (Float × List Char) :=
  let (whole, rest) := digits 10 false input
  let (pointed, part, rest) := match rest with
    | '.' :: after =>
      let (part, rest) := digits 10 false after
      (true, part, rest)
    | rest => (false, [], rest)
  if whole.isEmpty && part.isEmpty then none
  else
    let exponent := readExponent rest
    let rest := (exponent.map Prod.snd).getD rest
    if (pointed || exponent.isSome) && !rest.head?.any CodePoint.continuesName then
      let power := (exponent.map Prod.fst).getD 0
      some (scientific (whole ++ part) (power - part.length), rest)
    else none

/-- A fixed number of hexadecimal digits as a character. -/
def readPoint (width : Nat) (input : List Char) : Option (Char × List Char) :=
  let found := input.take width
  if found.length = width && found.all fun c => (digit? 16 c).isSome then
    some (Char.ofNat (valueOf 16 found), input.drop width)
  else none

/-- Up to three octal digits as a character. -/
def readOctal (input : List Char) : Char × List Char :=
  let found := (input.take 3).takeWhile fun c => (digit? 8 c).isSome
  (Char.ofNat (valueOf 8 found), input.drop found.length)

/-- What an escape stands for, from the character after the backslash on. -/
def readEscape : List Char → Option (List Char × List Char)
  | [] => none
  | c :: rest =>
    match [('n', '\n'), ('t', '\t'), ('r', '\r'), ('\\', '\\'), ('\'', '\''), ('"', '"'),
        ('a', '\x07'), ('b', '\x08'), ('f', '\x0c'), ('v', '\x0b')].lookup c with
    | some meant => some ([meant], rest)
    | none =>
      if c = '\n' then some ([], rest)
      else if c = 'x' then (readPoint 2 rest).map fun (meant, after) => ([meant], after)
      else if c = 'u' then (readPoint 4 rest).map fun (meant, after) => ([meant], after)
      else if c = 'U' then (readPoint 8 rest).map fun (meant, after) => ([meant], after)
      else if (digit? 8 c).isSome then
        let (meant, after) := readOctal (c :: rest)
        some ([meant], after)
      else some (['\\', c], rest)

/-- Read quoted text up to its closing mark, at most `bound` characters of it.  A text between three
marks may run over several lines. -/
def readQuoted (mark : Char) (tripled raw : Bool) :
    Nat → List Char → List Char → Option (List Char × List Char)
  | 0, _, _ => none
  | _, _, [] => none
  | bound + 1, taken, c :: rest =>
    if c = '\\' then
      if raw then
        match rest with
        | next :: after => readQuoted mark tripled raw bound (next :: c :: taken) after
        | [] => none
      else
        match readEscape rest with
        | some (meant, after) => readQuoted mark tripled raw bound (meant.reverse ++ taken) after
        | none => none
    else if tripled then
      if [c, c, c].isPrefixOf (c :: rest) && c = mark then some (taken.reverse, rest.drop 2)
      else readQuoted mark tripled raw bound (c :: taken) rest
    else if c = mark then some (taken.reverse, rest)
    else if c = '\n' then none
    else readQuoted mark tripled raw bound (c :: taken) rest

/-- Read quoted text from its opening mark on. -/
def readText (raw : Bool) : List Char → Option (List Char × List Char)
  | a :: b :: c :: rest =>
    if a = b ∧ b = c then readQuoted a true raw (rest.length + 1) [] rest
    else readQuoted a false raw (rest.length + 3) [] (b :: c :: rest)
  | a :: rest => readQuoted a false raw (rest.length + 1) [] rest
  | [] => none

/-- Does a character open quoted text? -/
def isQuote (c : Char) : Bool := c = '\'' || c = '"'

/-- The letters that may stand before quoted text: does the text keep its escapes, and does the
letter say nothing? -/
def opening? : List Char → Option (Bool × Bool)
  | [c] => if c = 'u' ∨ c = 'U' then some (false, true)
    else if c = 'r' ∨ c = 'R' then some (true, false) else none
  | _ => none

/-- How deep inside brackets a text is after a sign. -/
def depthAfter (depth : Nat) (c : Char) : Nat :=
  if c = '[' ∨ c = '(' then depth + 1 else if c = ']' ∨ c = ')' then depth - 1 else depth

/-- Does a line say nothing?  A last line that is not ended must not consist of blanks only. -/
def saysNothing (isLast : Bool) (line : List Char) : Bool :=
  match line.dropWhile fun c => c = ' ' || c = '\t' || c = '\x0c' with
  | [] => !isLast || line.isEmpty
  | c :: _ => c = '#'

/-- Do all lines say nothing? -/
def allSayNothing : Nat → List Char → Bool
  | 0, _ => true
  | bound + 1, letters =>
    let line := letters.takeWhile (· ≠ '\n')
    match letters.drop line.length with
    | [] => saysNothing true line
    | _ :: rest => saysNothing false line && allSayNothing bound rest

/-- A text without the lines at its start that say nothing. -/
def fromFirstLine : Nat → List Char → List Char
  | 0, letters => letters
  | bound + 1, letters =>
    let line := letters.takeWhile (· ≠ '\n')
    match letters.drop line.length with
    | [] => letters
    | _ :: rest => if saysNothing false line then fromFirstLine bound rest else letters

/-- How far a line is indented: a form feed starts the line anew. -/
def indentation : List Char → Nat → Nat
  | c :: rest, sofar =>
    if c = '\x0c' then indentation rest 0
    else if c = ' ' ∨ c = '\t' then indentation rest (sofar + 1)
    else sofar
  | [], sofar => sofar

/-- A text whose lines all end in the same way. -/
def plainLines : List Char → List Char
  | '\r' :: '\n' :: rest => '\n' :: plainLines rest
  | '\r' :: rest => '\n' :: plainLines rest
  | c :: rest => c :: plainLines rest
  | [] => []

/-- Split a text into tokens; `none` when some character starts none. -/
def split : Nat → Nat → List Char → Option (List Token)
  | 0, _, rest => if rest.isEmpty then some [] else none
  | _, _, [] => some []
  | bound + 1, depth, c :: rest =>
    if c = ' ' ∨ c = '\t' ∨ c = '\x0c' then split bound depth rest
    else if c = '\n' then
      if depth = 0 && !allSayNothing (rest.length + 1) rest then none else split bound depth rest
    else if c = '#' then split bound depth (rest.dropWhile (· ≠ '\n'))
    else if c = '\\' then
      match rest with
      | '\n' :: after => split bound depth after
      | _ => none
    else if isQuote c then do
      let (value, after) ← readText false (c :: rest)
      return .text (String.ofList value) false :: (← split bound depth after)
    else if CodePoint.startsName c then
      let word := c :: rest.takeWhile CodePoint.continuesName
      let after := rest.dropWhile CodePoint.continuesName
      match opening? word, after.head?.any isQuote with
      | some (raw, marked), true => do
        let (value, after) ← readText raw after
        return .text (String.ofList value) marked :: (← split bound depth after)
      | _, _ => do
        return .word (normalName (String.ofList word)) :: (← split bound depth after)
    else if c.isDigit ∨ (c = '.' && rest.head?.any Char.isDigit) then
      match readFraction (c :: rest) with
      | some (value, after) => do return .fraction value :: (← split bound depth after)
      | none => do
        let (value, after) ← readNumber (c :: rest)
        return .number value :: (← split bound depth after)
    else if c = '.' then
      match rest with
      | '.' :: '.' :: after => do return .dots :: (← split bound depth after)
      | _ => do return .sign c :: (← split bound depth rest)
    else if ['[', ']', '(', ')', ',', '-'].contains c then do
      return .sign c :: (← split bound (depthAfter depth c) rest)
    else none

/-- Join quoted texts that follow each other. -/
def joinTexts : List Token → List Token
  | [] => []
  | token :: rest =>
    match token, joinTexts rest with
    | .text first marked, .text second _ :: after => .text (first ++ second) marked :: after
    | token, joined => token :: joined

/-- The tokens of a text; `none` when it has none, or none that make sense. -/
def ofText? (text : String) : Option (List Token) :=
  let letters := plainLines text.toList
  let letters := fromFirstLine (letters.length + 1) letters
  if indentation letters 0 ≠ 0 then none
  else (split (letters.length + 1) 0 letters).map joinTexts

end Token

end Deferred.Hint
