import Deferred.Call.Item
import Deferred.Call.Number
import Deferred.Text.Template

/-!
# Filling templates

The fields of a template are filled in turn.  A field between braces names the argument it is filled
with, by number or by name, and can go on to parts of it; fields without a name are numbered.  A
field behind a percent sign takes the next of the values, or one by its key.
-/

namespace Deferred.Action

open Deferred.Text

/-! ## Fields between braces -/

/-- What the fields of a template are filled with. -/
structure TemplateValues where
  /-- The arguments by position; there are none where all fields are filled by key. -/
  positional : Option (List Value)
  /-- The value of a name. -/
  named : String → Action Value

/-- How the fields of a template are numbered so far. -/
structure Numbering where
  /-- Are the fields numbered in order, or does each tell its number? -/
  automatic : Option Bool := none
  next : Nat := 0
  deriving Inhabited

/-- Words as a fault. -/
def orBadText {α : Type} : Except String α → Action α
  | .ok value => return value
  | .error words => fail (.badValue words)

/-- The argument that a field starts with, and how fields are numbered from then on. -/
def firstValue (values : TemplateValues) (numbering : Numbering) (first : List Char) :
    Action (Value × Numbering) := do
  let index ← orBadText (keyNumber first)
  if first.isEmpty || index.isSome then
    let automatic := numbering.automatic.getD first.isEmpty
    if !automatic && first.isEmpty then
      fail (.badValue
        "cannot switch from manual field specification to automatic field numbering")
    else if automatic && !first.isEmpty then
      fail (.badValue
        "cannot switch from automatic field numbering to manual field specification")
    else
      let index := index.getD numbering.next
      let next := if first.isEmpty then numbering.next + 1 else numbering.next
      match values.positional with
      | none => fail (.badValue "Format string contains positional fields")
      | some positional =>
        match positional[index]? with
        | some value => return (value, { automatic := some automatic, next })
        | none => fail .badIndex
  else return (← values.named (String.ofList first), numbering)

/-- A part of a value, step by step. -/
def followSteps (call : Caller) (value : Value) : List FieldStep → Action Value
  | [] => return value
  | .part name :: rest => do
    followSteps call (← getAttribute call value (String.ofList name)) rest
  | .item key :: rest => do
    let index := match keyNumber key with
      | .ok (some number) => Value.ofInt number
      | _ => .ofText (String.ofList key)
    followSteps call (← item call value index) rest

/-- A value turned into text as a conversion asks. -/
def converted (call : Caller) (conversion : Option Char) (value : Value) : Action Value :=
  match conversion with
  | none => return value
  | some 'r' => shownText call value
  | some 's' => toText call value
  | some 'a' => plainText call value
  | some c => fail (.badValue ("Unknown conversion specifier " ++ Text.Layout.inMessage c))

/-- Fill the fields of a template, in at most `bound` steps; layouts can nest to a `depth`. -/
def fillFields (call : Caller) (values : TemplateValues) :
    Nat → Nat → Numbering → List Char → List Char → Action (List Char × Numbering)
  | 0, _, _, _, _ => fail .outOfFuel
  | bound + 1, depth, numbering, sofar, letters => do
    if depth = 0 then fail (.badValue "Max string recursion exceeded")
    else if letters.isEmpty then return (sofar, numbering)
    else
      match ← orBadText (nextPart letters) with
      | (.literal literal, rest) =>
        fillFields call values bound depth numbering (sofar ++ literal) rest
      | (.field field, rest) => do
        let first := field.name.takeWhile fun c => c ≠ '.' && c ≠ '['
        let (start, numbering) ← firstValue values numbering first
        let steps ← orBadText (fieldSteps field.name.length (field.name.drop first.length))
        let value ← converted call field.conversion (← followSteps call start steps)
        let (spec, numbering) ←
          if field.nested then fillFields call values bound (depth - 1) numbering [] field.spec
          else done (field.spec, numbering)
        let written ← lettersOf (inField call value (String.ofList spec))
        fillFields call values bound depth numbering (sofar ++ written) rest

/-- A template with its fields filled. -/
def fillTemplate (call : Caller) (template : String) (values : TemplateValues) : Action Value := do
  let letters := template.toList
  let (filled, _) ← fillFields call values (2 * letters.length + 4) 2 {} [] letters
  fresh (.text (String.ofList filled))

/-- A template with its fields filled from the arguments of a call. -/
def fillFromArguments (call : Caller) (template : String) (arguments : Arguments) :
    Action Value :=
  fillTemplate call template {
    positional := some arguments.positional
    named := fun name =>
      orFail (.keyMissing (quote name)) (arguments.keywords.lookup name) }

/-! ## Fields behind percent signs -/

/-- A kind of string with fields behind percent signs.  Octets stand in it as the characters of
their numbers. -/
structure PercentKind where
  /-- A key as it is looked up. -/
  key : List Char → Value
  /-- A value as the string that a conversion asks for, for the conversions that ask for one. -/
  written? : Char → Option (Value → Action (List Char))
  /-- The single character that a value is. -/
  character : Value → Action (List Char)
  /-- The string that is made. -/
  answer : List Char → Action Value

/-- What the fields behind percent signs are filled from. -/
structure PercentValues where
  /-- The values that are left. -/
  rest : List Value
  /-- The table that keys are looked up in. -/
  table : Option Value

/-- The next of the values, and those behind it. -/
def takeValue (values : PercentValues) : Action (Value × PercentValues) :=
  match values.rest with
  | value :: rest => return (value, { values with rest })
  | [] => fail (.misuse .operands)

/-- A measure, which can be one of the values. -/
def measured (measure : Option Measure) (values : PercentValues) :
    Action (Option Int × PercentValues) := do
  match measure with
  | none => return (none, values)
  | some (.written size) => return (some size, values)
  | some .taken => do
    let (value, values) ← takeValue values
    match (← store).plainOf value with
    | .int size _ =>
      if Store.fitsSize size then return (some size, values) else fail Store.unfitSize
    | .bool size => return (some (if size then 1 else 0), values)
    | _ => fail (.misuse .operands)

/-- Signed letters in a field; a sign and a mark of the base stand before what fills the field when
zeros fill it. -/
def padPercent (flags : List Char) (width : Int) (zeros : Bool) (front letters : List Char) :
    List Char :=
  let missing := width.toNat - (front.length + letters.length)
  if flags.contains '-' then front ++ letters ++ List.replicate missing ' '
  else if zeros then front ++ List.replicate missing '0' ++ letters
  else List.replicate missing ' ' ++ front ++ letters

/-- What stands before a number of which a sign is told. -/
def percentSign (flags : List Char) (negative : Bool) : List Char :=
  if negative then ['-'] else if flags.contains '+' then ['+']
  else if flags.contains ' ' then [' '] else []

/-- The whole number that a conversion asks for. -/
def percentWhole (call : Caller) (letter : Char) (value : Value) : Action Int := do
  let isNumber := (Number.ofValue? ((← store).plainOf value)).isSome
  if ['o', 'x', 'X'].contains letter then wholeNumber call value
  else if isNumber then toWhole call value
  else
    match ← askFor call ["__int__", "__index__"] value with
    | some answer => orFail (.misuse .operands) (Number.wholeOf? answer)
    | none => fail (.misuse .operands)

/-- The character that a value is: itself, or the one whose number is below a limit. -/
def characterBelow (call : Caller) (limit : Int) (shown : String)
    (itself? : Value → Option (List Char)) (value : Value) : Action (List Char) := do
  match itself? ((← store).plainOf value) with
  | some [c] => return [c]
  | some _ => fail (.misuse .operands)
  | none => do
    let number ← wholeNumber call value
    if 0 ≤ number && number < limit then return [Char.ofNat number.toNat]
    else fail (.foreign "OverflowError" ("%c arg not in range(" ++ shown ++ ")"))

/-- Text as a kind of string with fields. -/
def textKind (call : Caller) : PercentKind where
  key letters := .ofText (String.ofList letters)
  written? letter :=
    if letter = 's' then some fun value => lettersOf (toText call value)
    else if letter = 'r' then some fun value => lettersOf (shownText call value)
    else if letter = 'a' then some fun value => lettersOf (plainText call value)
    else none
  character := characterBelow call 0x110000 "0x110000" fun
    | .text text _ => some text.toList
    | _ => none
  answer letters := fresh (.text (String.ofList letters))

/-- The characters of octets. -/
def octetCharacters (octets : List UInt8) : List Char :=
  octets.map fun octet => Char.ofNat octet.toNat

/-- Octets as a kind of string with fields; `answer` makes octets of the kind. -/
def octetKind (call : Caller) (store : Store) (answer : List UInt8 → Action Value) :
    PercentKind where
  key letters := .octets (letters.map fun c => UInt8.ofNat c.toNat) 0
  written? letter :=
    if letter = 's' || letter = 'b' then some fun value => do
      let value := ((← callSpecial? call value "__bytes__" []).getD value)
      return octetCharacters (← orFail (.misuse .operands) ((← Action.store).octetsOf? value))
    else if letter = 'r' || letter = 'a' then some fun value => lettersOf (plainText call value)
    else none
  character := characterBelow call 256 "256" fun value =>
    (store.octetsOf? value).map octetCharacters
  answer letters := answer (letters.map fun c => UInt8.ofNat c.toNat)

/-- A value written as a conversion asks; `place` is the place of its letter in the template. -/
def percentLetters (call : Caller) (kind : PercentKind) (conversion : Conversion)
    (width precision : Option Int) (place : Nat) (value : Value) : Action (List Char) := do
  let flags := if (width.getD 0) < 0 then '-' :: conversion.flags else conversion.flags
  let width : Int := (width.getD 0).natAbs
  let zeros := flags.contains '0'
  let letter := conversion.letter
  if let some spell := kind.written? letter then
    let letters ← spell value
    return padPercent flags width false []
      ((precision.map fun size => letters.take size.toNat).getD letters)
  else if letter = 'c' then
    return padPercent flags width false [] (← kind.character value)
  else if ['d', 'i', 'u', 'o', 'x', 'X'].contains letter then
    let number ← percentWhole call letter value
    let (base, mark) := Number.baseOf letter
    if base = 10 && Text.isOverlong number then fail (.tooManyDigits "")
    let digits := BinaryFraction.padded 1 number.natAbs
    let digits := if base = 10 then digits else Nat.toDigits base number.natAbs
    let digits := List.replicate ((precision.getD 0).toNat - digits.length) '0' ++
      Number.casedFor letter digits
    return padPercent flags width zeros
      (percentSign flags (number < 0) ++ if flags.contains '#' then mark else []) digits
  else if ['e', 'E', 'f', 'F', 'g', 'G'].contains letter then
    let number ← floatNumber call value
    let layout : Text.Layout :=
      { alignment := .right, alternate := flags.contains '#', form := some letter
        precision := some ((precision.map Int.toNat).getD 6) }
    let letters ← orFault (Number.floatLetters layout number)
    let negative := letters.head? = some '-'
    return padPercent flags width zeros (percentSign flags negative)
      (if negative then letters.drop 1 else letters)
  else
    fail (.badValue ("unsupported format character '" ++
      String.singleton (if 31 ≤ letter.toNat && letter.toNat ≤ 126 then letter else '?') ++
      "' (0x" ++ String.ofList (Nat.toDigits 16 letter.toNat) ++ ") at index " ++ toString place))

/-- The value behind a percent sign that a key stands for, and what follows the key. -/
def percentKey (call : Caller) (kind : PercentKind) (values : PercentValues) (letters : List Char) :
    Action (Option (List Char) × PercentValues × List Char) := do
  match letters with
  | '(' :: rest =>
    match values.table with
    | none => fail (.misuse .operands)
    | some table =>
      match Conversion.key? 0 rest with
      | none => fail (.badValue "incomplete format key")
      | some (key, rest) => do
        let value ← item call table (kind.key key)
        return (some key, { values with rest := [value] }, rest)
  | letters => return (none, values, letters)

/-- Fill the fields behind percent signs, at most `bound` of them; `size` is the length of the
template. -/
def fillPercent (call : Caller) (kind : PercentKind) (size : Nat) :
    Nat → PercentValues → List Char → List Char → Action (List Char × PercentValues)
  | 0, _, _, _ => fail .outOfFuel
  | bound + 1, values, sofar, letters => do
    let literal := letters.takeWhile (· ≠ '%')
    let sofar := sofar ++ literal
    match letters.drop literal.length with
    | [] => return (sofar, values)
    | _ :: rest => do
      let (key, values, rest) ← percentKey call kind values rest
      let (conversion, rest) ← orBadText (Conversion.behindKey key rest)
      let (width, values) ← measured conversion.width values
      let (precision, values) ← measured conversion.precision values
      if conversion.letter = '%' then
        fillPercent call kind size bound values (sofar ++ ['%']) rest
      else
        let (value, values) ← takeValue values
        let written ← percentLetters call kind conversion width precision
          (size - rest.length - 1) value
        fillPercent call kind size bound values (sofar ++ written) rest

/-- Do the fields of a string of a kind take values from a value by keys? -/
def isKeyed (store : Store) (inText : Bool) (source plain : Value) : Bool :=
  match plain with
  | .octets _ _ => inText
  | .range _ _ _ _ => true
  | .object id _ =>
    (inText || (store.octetsOf? plain).isNone) &&
      ((store.item? source (.ofInt 0)).isSome || (special? store source "__getitem__").isSome ||
        id = ClassId.dict)
  | _ => false

/-- Is a value a string whose fields behind percent signs can be filled? -/
def isTemplate (store : Store) (value : Value) : Bool :=
  value.asText?.isSome || (store.octetsOf? value).isSome

/-- A string with the fields behind its percent signs filled: from the items of a tuple, from a
table, or from a single value. -/
def fillFromValues (call : Caller) (template source : Value) : Action Value := do
  let store ← store
  let plain := store.plainOf source
  let (kind, letters) ← match template with
    | .text text _ => done (textKind call, text.toList)
    | template => do
      let content ← orFail (.misuse .operands) (store.octetsOf? template)
      let answer : List UInt8 → Action Value := match template with
        | .octets _ _ => fun octets => fresh (.octets octets)
        | _ => fun octets => allocate ClassId.octetArray (.octets octets)
      done (octetKind call store answer, octetCharacters content)
  let inText := template.asText?.isSome
  let values : PercentValues := match plain with
    | .tuple items _ => { rest := items, table := none }
    | _ =>
      { rest := [source]
        table := if isKeyed store inText source plain then some source else none }
  let (filled, left) ← fillPercent call kind letters.length (letters.length + 1) values [] letters
  if !left.rest.isEmpty && left.table.isNone then fail (.misuse .operands)
  else kind.answer filled

end Deferred.Action
