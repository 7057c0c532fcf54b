import Deferred.Call.TextMethod

/-!
# Methods of octets

Octets are strings whose letters are the numbers below two hundred and fifty-six.  Some octets can
change in place, the way a list does.
-/

namespace Deferred.Action

open Deferred.Text

/-- The fault of a number that is no octet. -/
def noOctet : Fault := .badValue "byte must be in range(0, 256)"

/-- The octet that a number is. -/
def octetOf (call : Caller) (value : Value) : Action UInt8 := do
  let number ← wholeNumber call value
  if 0 ≤ number && number < 256 then return UInt8.ofNat number.toNat else fail noOctet

/-- The octets that a value holds. -/
def octetArgument (value : Value) : Action (List UInt8) := do
  orFail (.misuse .operands) ((← store).octetsOf? value)

/-- The octets that a value asks for: those it holds, or the one it is. -/
def octetsSought (call : Caller) (value : Value) : Action (List UInt8) := do
  match (← store).octetsOf? value with
  | some content => return content
  | none => return [← octetOf call value]

/-- The octets that the items of a value are, up to the first fault. -/
def octetsUntil (machine : Machine) (range : Fault) (source : Value) :
    Action (Reached (List UInt8)) :=
  mapUntil machine (fun item => do
    let number ← wholeNumber machine.call item
    if 0 ≤ number && number < 256 then return UInt8.ofNat number.toNat else fail range) source

/-- The octets that the items of a value are. -/
def octetsOfItems (machine : Machine) (range : Fault) (source : Value) : Action (List UInt8) := do
  let (octets, fault) ← octetsUntil machine range source
  raised fault
  return octets

/-- A character of an octet below one hundred and twenty-eight; any other octet is no letter. -/
def asLetter (octet : UInt8) : Char := Char.ofNat octet.toNat

/-- A change of the plain letters among octets. -/
def onLetters (change : Char → Char) (octet : UInt8) : UInt8 :=
  if octet < 128 then UInt8.ofNat (change (asLetter octet)).toNat else octet

/-- Octets with the first letter of every word in upper case; `inWord` says whether a letter stands
right before. -/
def titledOctets (inWord : Bool) : List UInt8 → List UInt8
  | [] => []
  | octet :: rest =>
    let letter := octet < 128 && (asLetter octet).isAlpha
    onLetters (if inWord then Char.toLower else Char.toUpper) octet :: titledOctets letter rest

/-- The changes of case, by their names. -/
def octetChange? (name : String) : Option (List UInt8 → List UInt8) :=
  match name with
  | "upper" => some (List.map (onLetters Char.toUpper))
  | "lower" => some (List.map (onLetters Char.toLower))
  | "swapcase" => some (List.map (onLetters fun c => if c.isUpper then c.toLower else c.toUpper))
  | "title" => some (titledOctets false)
  | "capitalize" => some fun octets =>
    (octets.take 1).map (onLetters Char.toUpper) ++ (octets.drop 1).map (onLetters Char.toLower)
  | _ => none

/-- Is an octet a plain blank? -/
def isBlankOctet (octet : UInt8) : Bool :=
  octet = 32 || (9 ≤ octet && octet ≤ 13)

/-- The questions about octets, by their names. -/
def octetTest? (name : String) : Option (List UInt8 → Bool) :=
  let all (test : Char → Bool) (octets : List UInt8) : Bool :=
    !octets.isEmpty && octets.all fun octet => octet < 128 && test (asLetter octet)
  let letters (octets : List UInt8) : List Char :=
    octets.map fun octet => if octet < 128 then asLetter octet else '-'
  match name with
  | "isalnum" => some (all Char.isAlphanum)
  | "isalpha" => some (all Char.isAlpha)
  | "isdigit" => some (all Char.isDigit)
  | "isspace" => some fun octets => !octets.isEmpty && octets.all isBlankOctet
  | "isascii" => some (List.all · (· < 128))
  | "islower" => some fun octets => Letter.isLowerText (letters octets)
  | "isupper" => some fun octets => Letter.isUpperText (letters octets)
  | "istitle" => some fun octets => Letter.isTitledText (letters octets)
  | _ => none

/-- A new string of octets, of the kind that another is of. -/
def likeOctets (receiver : Value) (octets : List UInt8) : Action Value :=
  match receiver with
  | .octets _ _ => fresh (.octets octets)
  | _ => allocate ClassId.octetArray (.octets octets)

/-- Octets as a kind of string. -/
def octetLetters (call : Caller) (receiver : Value) (content : List UInt8) : Letters UInt8 where
  answer octets :=
    match receiver with
    | .octets _ _ => if octets = content then return receiver else fresh (.octets octets)
    | _ => likeOctets receiver octets
  argument := octetArgument
  sought := octetsSought call
  toChar := asLetter
  ofChar c := UInt8.ofNat c.toNat
  isBlank := isBlankOctet
  endsLine octet := octet = 10 || octet = 13
  change? := octetChange?
  test? := octetTest?

/-! ## Hexadecimal digits -/

/-- Octets as pairs of hexadecimal digits, with a separator between groups of `size` octets; groups
are counted from the end, or from the start if `fromStart`. -/
def grouped (separator : List Char) (size : Nat) (fromStart : Bool) (octets : List UInt8) :
    List Char :=
  let count := octets.length
  (octets.zipIdx.map fun (octet, place) =>
    let cut := size ≠ 0 && place ≠ 0 &&
      (if fromStart then place % size = 0 else (count - place) % size = 0)
    (if cut then separator else []) ++ hexDigits 2 octet.toNat).flatten

/-- Octets in hexadecimal digits. -/
def hexText (machine : Machine) (octets : List UInt8) (separator size : Value) : Action Value := do
  let call := machine.call
  match separator with
  | .noInput => fresh (.text (String.ofList (grouped [] 0 false octets)))
  | separator => do
    let size ← shortNumber call size
    if (← lengthWithin machine separator) ≠ 1 then fail (.badValue "sep must be length 1.")
    let letters ← match (← store).plainOf separator with
      | .text text _ => done text.toList
      | separator => done ((← octetArgument separator).map asLetter)
    if letters.all fun c => c.toNat < 128 then
      fresh (.text (String.ofList (grouped letters size.natAbs (size < 0) octets)))
    else fail (.badValue "sep must be ASCII.")

/-- The octets that pairs of hexadecimal digits spell, with blanks between them left out; `place` is
the place of the first character. -/
def readHex (place : Nat) : List Char → Except Nat (List UInt8)
  | [] => .ok []
  | [c] => if isBlankOctet (UInt8.ofNat c.toNat) && c.toNat < 128 then .ok [] else .error (place + 1)
  | a :: b :: rest =>
    if a.toNat < 128 && isBlankOctet (UInt8.ofNat a.toNat) then readHex (place + 1) (b :: rest)
    else
      let digit? (c : Char) : Option Nat := (Number.Read.digit? c).bind fun digit =>
        if digit < 16 then some digit else none
      match digit? a, digit? b with
      | some high, some low =>
        (readHex (place + 2) rest).map (UInt8.ofNat (16 * high + low) :: ·)
      | none, _ => .error place
      | some _, none => .error (place + 1)

/-- The octets that hexadecimal digits spell. -/
def octetsOfHex (text : Value) : Action (List UInt8) := do
  match readHex 0 (← textArgument text) with
  | .ok octets => return octets
  | .error place => fail (.badValue ("non-hexadecimal number found in fromhex() arg at position " ++
      toString place))

/-! ## Octets that change -/

/-- The methods that change octets in place; `none` for any other name. -/
def changeOctets? (machine : Machine) (receiver : Value) (content : List UInt8) (name : String)
    (arguments : List Value) : Option (Action Value) :=
  let call := machine.call
  let store (content : List UInt8) : Action Unit := match receiver with
    | .object _ place => perform (.setOctets place content)
    | _ => done ()
  let write (content : List UInt8) : Action Value := silently (store content)
  let more (source : Value) : Action (List UInt8) := do
    match (← Action.store).octetsOf? source with
    | some content => return content
    | none => octetsOfItems machine noOctet source
  match name, arguments with
  | "append", [item] => some do write (content ++ [← octetOf call item])
  | "extend", [source] => some do write (content ++ (← more source))
  | "insert", [index, item] => some do
    let start := clamped content.length (← sizeNumber call index)
    let octet ← octetOf call item
    write (content.take start ++ octet :: content.drop start)
  | "pop", [index] => some do
    let place ← poppedPlace call content.length index
    store (content.eraseIdx place)
    return .ofInt ((content[place]?).getD 0).toNat
  | "remove", [item] => some do
    let octet ← octetOf call item
    if content.contains octet then write (content.erase octet)
    else fail (.badValue "value not found in bytearray")
  | "clear", [] => some (write [])
  | "copy", [] => some (likeOctets receiver content)
  | "reverse", [] => some (write content.reverse)
  | "__setitem__", [index, value] => some do
    write (← setItems call content index value (octetOf call) more)
  | "__delitem__", [index] => some do write (← removeItems call content index)
  | "__iadd__", [other] => some do
    store (content ++ (← octetArgument other))
    return receiver
  | "__imul__", [count] => some do
    match (← Action.store).repeat? receiver (← wholeNumber call count) with
    | some (.ok (.made _ (.octets content))) => do
      store content
      return receiver
    | some (.error fault) => fail fault
    | _ => return .declined
  | _, _ => none

/-- The methods of octets; `none` for any other name. -/
def octetMethod? (machine : Machine) (receiver : Value) (content : List UInt8) (name : String)
    (arguments : List Value) : Option (Action Value) :=
  match name, arguments with
  | "decode", [encoding, mode] => some (decodeOctets content encoding mode)
  | "hex", [separator, size] => some (hexText machine content separator size)
  | "translate", [table, dropped] => some do
    let dropped ← octetArgument dropped
    let kept := content.filter fun octet => !dropped.contains octet
    match table with
    | .absent => likeOctets receiver kept
    | table => do
      let table ← octetArgument table
      if table.length = 256 then
        likeOctets receiver (kept.map fun octet => (table[octet.toNat]?).getD octet)
      else fail (.badValue "translation table must be 256 characters long")
  | "__getnewargs__", [] => some (fresh (.tuple [receiver]))
  | "__bytes__", [] => some (return receiver)
  | name, arguments =>
    let changed := match receiver with
      | .octets _ _ => none
      | _ => changeOctets? machine receiver content name arguments
    changed.or
      (stringMethod? machine (octetLetters machine.call receiver content) content name arguments)

end Deferred.Action
