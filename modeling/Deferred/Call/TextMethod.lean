import Deferred.Call.StringMethod
import Deferred.Call.TableMethod
import Deferred.Text.Encoding
import Deferred.Text.Identifier

/-!
# Methods of text

What text has beyond the methods of all strings: cases and kinds of letters of every script,
templates, tables that translate letters, and encodings.
-/

namespace Deferred.Action

open Deferred.Text

/-- The text that an argument is. -/
def textArgument (value : Value) : Action (List Char) := do
  match (← store).plainOf value with
  | .text text _ => return text.toList
  | _ => fail (.misuse .operands)

/-- The changes of case, by their names. -/
def textChange? (name : String) : Option (List Char → List Char) :=
  match name with
  | "upper" => some Letter.upperText
  | "lower" => some Letter.lowerText
  | "casefold" => some Letter.foldedText
  | "capitalize" => some Letter.capitalized
  | "title" => some Letter.titled
  | "swapcase" => some Letter.swapped
  | _ => none

/-- The questions about text, by their names. -/
def textTest? (name : String) : Option (List Char → Bool) :=
  let all (test : Char → Bool) (letters : List Char) : Bool := !letters.isEmpty && letters.all test
  match name with
  | "isalnum" => some (all Letter.isAlphanumeric)
  | "isalpha" => some (all Letter.isLetter)
  | "isdecimal" => some (all fun c => (Letter.decimal? c).isSome)
  | "isdigit" => some (all Letter.isDigit)
  | "isnumeric" => some (all Letter.isNumeric)
  | "isspace" => some (all Letter.isBlank)
  | "isascii" => some (List.all · (·.toNat < 128))
  | "isprintable" => some (List.all · CodePoint.printable)
  | "islower" => some Letter.isLowerText
  | "isupper" => some Letter.isUpperText
  | "istitle" => some Letter.isTitledText
  | "isidentifier" => some fun letters => isIdentifier (String.ofList letters)
  | _ => none

/-- Text as a kind of string; letters that are those of `receiver` are the receiver itself. -/
def textLetters (receiver : Value) (text : String) : Letters Char where
  answer letters :=
    let made := String.ofList letters
    if made = text then return receiver else fresh (.text made)
  argument := textArgument
  sought := textArgument
  toChar c := c
  ofChar c := c
  isBlank := Letter.isBlank
  endsLine := Letter.endsLine
  change? := textChange?
  test? := textTest?

/-! ## Encodings -/

/-- The text of an argument that names something. -/
def nameArgument (value : Value) : Action String := do
  return String.ofList (← textArgument value)

/-- What stands for characters that an encoding does not have. -/
def replaced? (mode : String) (letters : List Char) : Option (List Char) :=
  match mode with
  | "ignore" => some []
  | "replace" => some (letters.map fun _ => '?')
  | "xmlcharrefreplace" =>
    some (letters.flatMap fun c => ("&#" ++ toString c.toNat ++ ";").toList)
  | "backslashreplace" => some (letters.flatMap escapePoint)
  | _ => none

/-- The fault of a way to deal with failures that is not known. -/
def unknownMode (mode : String) : Fault :=
  .foreign "LookupError" ("unknown error handler name '" ++ mode ++ "'")

/-- Text as octets, in at most `bound` steps. -/
def encodeLetters (encoding : Encoding) (mode : String) (whole : List Char) :
    Nat → Nat → List Char → Action (List UInt8)
  | 0, _, _ => return []
  | bound + 1, place, letters => do
    match encoding.encodeFrom place letters with
    | (octets, none) => return octets
    | (octets, some failure) => do
      if mode = "strict" then
        fail (.foreign "UnicodeEncodeError" (Store.unencodable encoding.name whole
          failure.start failure.stop failure.reason))
      else
        let missing := (letters.drop (failure.start - place)).take (failure.stop - failure.start)
        let stand ← orFail (unknownMode mode) (replaced? mode missing)
        let rest ← encodeLetters encoding mode whole bound failure.stop
          (letters.drop (failure.stop - place))
        return octets ++ stand.map (fun c => UInt8.ofNat c.toNat) ++ rest

/-- The encoding that goes by a name, and the way to deal with failures. -/
def encodingAndMode (name mode : Value) : Action (Encoding × String) := do
  let name ← nameArgument name
  let mode ← nameArgument mode
  let found ← orFail (.foreign "LookupError" ("unknown encoding: " ++ name))
    (Encoding.ofName? name)
  return (found, mode)

/-- Text as octets. -/
def encodeText (text : List Char) (encoding mode : Value) : Action (List UInt8) := do
  let (found, mode) ← encodingAndMode encoding mode
  return found.mark ++ (← encodeLetters found mode text (text.length + 1) 0 text)

/-- What octets stand for, where they stand for characters. -/
def decodeParts (encoding : Encoding) (mode : String) (octets : List UInt8) :
    List (Except Encoding.Failure Char) → Action (List Char)
  | [] => return []
  | .ok c :: rest => do return c :: (← decodeParts encoding mode octets rest)
  | .error failure :: rest => do
    let stand : List Char ← match mode with
      | "strict" => fail (.foreign "UnicodeDecodeError" (Store.undecodable encoding.name octets
          failure.start failure.stop failure.reason))
      | "ignore" => done []
      | "replace" => done ['\ufffd']
      | "backslashreplace" =>
        done (((octets.take failure.stop).drop failure.start).flatMap fun octet =>
          '\\' :: 'x' :: hexDigits 2 octet.toNat)
      | mode => fail (unknownMode mode)
    return stand ++ (← decodeParts encoding mode octets rest)

/-- Octets as text. -/
def decodeOctets (octets : List UInt8) (encoding mode : Value) : Action Value := do
  let (found, mode) ← encodingAndMode encoding mode
  let letters ← decodeParts found mode octets (found.decode octets)
  fresh (.text (String.ofList letters))

/-! ## Translating -/

/-- What a table makes of a letter. -/
def translated (call : Caller) (table : Value) (c : Char) : Action (List Char) := do
  match ← attempt (item call table (.ofInt c.toNat)) with
  | .ok .absent => return []
  | .ok (.text text _) => return text.toList
  | .ok (.int point _) =>
    if 0 ≤ point && point < 0x110000 then return [Char.ofNat point.toNat]
    else fail (.badValue "character mapping must be in range(0x110000)")
  | .ok _ => fail (.misuse .operands)
  | .error fault =>
    if ["KeyError", "IndexError", "LookupError"].contains fault.kind then return [c] else fail fault

/-- What a table makes of some letters. -/
def translateAll (call : Caller) (table : Value) : List Char → Action (List Char)
  | [] => return []
  | c :: rest => do
    let first ← translated call table c
    return first ++ (← translateAll call table rest)

/-- The entries of a table that translates letters, with keys that are single letters or numbers. -/
def letterKeys : List (Value × Value) → Action (List (Value × Value))
  | [] => return []
  | (key, value) :: rest => do
    let key ← match key with
      | .text text _ =>
        match text.toList with
        | [c] => done (.ofInt c.toNat)
        | _ => fail (.badValue "string keys in translate table must be of length 1")
      | .int _ _ => done key
      | .bool _ => done key
      | _ => fail (.misuse .operands)
    return (key, value) :: (← letterKeys rest)

/-- A table that translates letters. -/
def translationTable (first : Value) (others : List Value) : Action Value := do
  let pairs (old onto : List Char) : List (Value × Value) :=
    (old.zip onto).map fun (a, b) => (.ofInt a.toNat, .ofInt b.toNat)
  match others with
  | [] =>
    match (← store).entriesOf? first with
    | some entries => do newDict (← putEntries [] (← letterKeys entries))
    | none => fail (.misuse .operands)
  | onto :: rest => do
    let first ← textArgument first
    let onto ← textArgument onto
    let dropped ← match rest with
      | [] => done []
      | [dropped] => textArgument dropped
      | _ => fail (.misuse .arguments)
    if first.length ≠ onto.length then
      fail (.badValue "the first two maketrans arguments must have equal length")
    newDict (← putEntries [] (pairs first onto ++
      dropped.map fun c => (.ofInt c.toNat, .absent)))

/-! ## All methods -/

/-- The arguments that a call brings, as it was given them. -/
def asArguments (store : Store) (positional : List Value) (named : Value) : Arguments :=
  { positional
    keywords := ((store.entriesOf? named).getD []).filterMap fun (key, value) =>
      key.asText?.map (·, value) }

/-- The methods of a text; `none` for any other name. -/
def textMethod? (machine : Machine) (receiver : Value) (text : String) (name : String)
    (arguments : List Value) : Option (Action Value) :=
  let letters := text.toList
  match name, arguments with
  | "encode", [encoding, mode] => some do
    let octets ← encodeText letters encoding mode
    fresh (.octets octets)
  | "format", [.tuple positional _, named] => some do
    fillFromArguments machine.call text (asArguments (← store) positional named)
  | "format_map", [table] => some (fillTemplate machine.call text {
      positional := none
      named := fun name => item machine.call table (.ofText name) })
  | "translate", [table] => some do
    fresh (.text (String.ofList (← translateAll machine.call table letters)))
  | "__getnewargs__", [] => some (fresh (.tuple [.ofText text]))
  | name, arguments =>
    stringMethod? machine (textLetters receiver text) letters name arguments

end Deferred.Action
