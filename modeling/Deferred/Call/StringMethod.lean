import Deferred.Call.SequenceMethod
import Deferred.Text.Search

/-!
# Methods of strings

Text and octets have most methods in common: searching, cutting, trimming, filling and changing
case.  What the letters are, and which of them are blanks or end lines, is up to the kind of string.
-/

namespace Deferred

/-- What the methods need to know of a kind of string. -/
structure Letters (α : Type) where
  /-- Some letters as a string. -/
  answer : List α → Action Value
  /-- The letters of an argument that is a string. -/
  argument : Value → Action (List α)
  /-- The letters that an argument asks for, which can be a single one. -/
  sought : Value → Action (List α)
  toChar : α → Char
  /-- The letter of a plain character. -/
  ofChar : Char → α
  isBlank : α → Bool
  endsLine : α → Bool
  /-- The changes of case, by their names. -/
  change? : String → Option (List α → List α)
  /-- The questions about letters, by their names. -/
  test? : String → Option (List α → Bool)

namespace Action

open Deferred.Text

variable {α : Type} [BEq α]

/-! ## Searching -/

/-- The bounds of a search: the first place, which can lie behind the end, and the last one. -/
def searchBounds (call : Caller) (size : Nat) (start stop : Value) : Action (Nat × Nat) := do
  let first ← match start with
    | .absent => done 0
    | start => do
      let index ← wholeNumber call start
      done (if index < 0 then (index + size).toNat else index.toNat)
  return (first, ← boundOf call size size stop)

/-- The letters between two bounds, if a search of `size` letters fits between them. -/
def window? (letters : List α) (bounds : Nat × Nat) (size : Nat) : Option (List α) :=
  if bounds.1 + size ≤ bounds.2 then some ((letters.take bounds.2).drop bounds.1) else none

/-- The place of letters in others, from the start or from the end. -/
def foundAt? (letters sought : List α) (bounds : Nat × Nat) (fromEnd : Bool) : Option Nat :=
  (window? letters bounds sought.length).bind fun window =>
    (if fromEnd then lastPlace? sought window else firstPlace? sought window).map (bounds.1 + ·)

/-- Do letters start or end with others, between two bounds? -/
def touches (letters : List α) (bounds : Nat × Nat) (atEnd : Bool) (sought : List α) : Bool :=
  match window? letters bounds sought.length with
  | some window => if atEnd then endsWith window sought else beginsWith window sought
  | none => false

/-- Do letters start or end with one of several arguments? -/
def touchesAny (kind : Letters α) (letters : List α) (bounds : Nat × Nat) (atEnd : Bool) :
    List Value → Action Bool
  | [] => return false
  | argument :: rest => do
    if touches letters bounds atEnd (← kind.argument argument) then return true
    else touchesAny kind letters bounds atEnd rest

/-- The methods that search; `none` for any other name. -/
def searchMethod? (call : Caller) (kind : Letters α) (letters : List α) (name : String)
    (arguments : List Value) : Option (Action Value) :=
  let place (sought start stop : Value) (fromEnd : Bool) : Action (Option Nat) := do
    let bounds ← searchBounds call letters.length start stop
    return foundAt? letters (← kind.sought sought) bounds fromEnd
  let find (sought start stop : Value) (fromEnd : Bool) : Action Value := do
    match ← place sought start stop fromEnd with
    | some found => fresh (.int found)
    | none => return .ofInt (-1)
  let index (sought start stop : Value) (fromEnd : Bool) : Action Value := do
    match ← place sought start stop fromEnd with
    | some found => fresh (.int found)
    | none => fail (.badValue
        (if (← kind.answer []).asText?.isSome then "substring not found"
          else "subsection not found"))
  let touching (sought start stop : Value) (atEnd : Bool) : Action Value := do
    let bounds ← searchBounds call letters.length start stop
    match sought with
    | .tuple several _ => return .bool (← touchesAny kind letters bounds atEnd several)
    | sought => return .bool (touches letters bounds atEnd (← kind.argument sought))
  match name, arguments with
  | "find", [sought, start, stop] => some (find sought start stop false)
  | "rfind", [sought, start, stop] => some (find sought start stop true)
  | "index", [sought, start, stop] => some (index sought start stop false)
  | "rindex", [sought, start, stop] => some (index sought start stop true)
  | "count", [sought, start, stop] => some do
    let bounds ← searchBounds call letters.length start stop
    let sought ← kind.sought sought
    fresh (.int (((window? letters bounds sought.length).map (occurrences sought)).getD 0))
  | "startswith", [sought, start, stop] => some (touching sought start stop false)
  | "endswith", [sought, start, stop] => some (touching sought start stop true)
  | "__contains__", [sought] => some do
    return .bool (firstPlace? (← kind.sought sought) letters).isSome
  | _, _ => none

/-! ## Cutting -/

/-- Several strings as a new list. -/
def newStrings (kind : Letters α) (parts : List (List α)) : Action Value := do
  newList (← each parts)
where
  each : List (List α) → Action (List Value)
    | [] => return []
    | part :: rest => do
      let made ← kind.answer part
      return made :: (← each rest)

/-- The letters of a separator, which must not be empty. -/
def separatorOf (kind : Letters α) (separator : Value) : Action (List α) := do
  match ← kind.argument separator with
  | [] => fail (.badValue "empty separator")
  | letters => return letters

/-- The limit that a number of cuts means; a negative one means none. -/
def cutLimit (call : Caller) (count : Value) : Action (Option Nat) := do
  let count ← sizeNumber call count
  return if count < 0 then none else some count.toNat

/-- The lines of some letters, with or without what ends them, in at most `bound` steps. -/
def linesOf (kind : Letters α) (keepsEnds : Bool) : Nat → List α → List (List α)
  | 0, _ => []
  | _, [] => []
  | bound + 1, letters =>
    let line := letters.takeWhile fun letter => !kind.endsLine letter
    match letters.drop line.length with
    | [] => [line]
    | ending :: rest =>
      let isPair := kind.toChar ending = '\r' && (rest.head?.map kind.toChar) = some '\n'
      let ending := if isPair then ending :: rest.take 1 else [ending]
      (if keepsEnds then line ++ ending else line) ::
        linesOf kind keepsEnds bound (if isPair then rest.drop 1 else rest)

/-- The methods that cut a string; `none` for any other name. -/
def cutMethod? (machine : Machine) (kind : Letters α) (letters : List α) (name : String)
    (arguments : List Value) : Option (Action Value) :=
  let cut (separator count : Value) (fromEnd : Bool) : Action Value := do
    let limit ← cutLimit machine.call count
    match separator with
    | .absent =>
      newStrings kind (if fromEnd then wordsFromEnd kind.isBlank limit letters
        else wordsOf kind.isBlank limit letters)
    | separator => do
      let separator ← separatorOf kind separator
      newStrings kind (if fromEnd then partsFromEnd separator limit letters
        else parts separator limit letters)
  let split (separator : Value)
      (cut : List α → List α → List α × List α × List α) : Action Value := do
    let (before, found, behind) := cut (← separatorOf kind separator) letters
    let before ← kind.answer before
    let found ← kind.answer found
    let behind ← kind.answer behind
    fresh (.tuple [before, found, behind])
  match name, arguments with
  | "split", [separator, count] => some (cut separator count false)
  | "rsplit", [separator, count] => some (cut separator count true)
  | "partition", [separator] => some (split separator around)
  | "rpartition", [separator] => some (split separator aroundLast)
  | "splitlines", [keepsEnds] => some do
    let keepsEnds ← switchedOn machine.call keepsEnds
    newStrings kind (linesOf kind keepsEnds (letters.length + 1) letters)
  | _, _ => none

/-! ## Trimming and filling -/

/-- The letters that are trimmed off an end. -/
def trimmedLetters (kind : Letters α) (chosen : Value) : Action (α → Bool) := do
  match chosen with
  | .absent => return kind.isBlank
  | chosen => do
    let chosen ← kind.argument chosen
    return chosen.contains

/-- Letters with blanks in place of tabs: as many as lead to the next column that is a multiple of
`size`. -/
def expanded (kind : Letters α) (size : Nat) : Nat → List α → List α
  | _, [] => []
  | column, letter :: rest =>
    let c := kind.toChar letter
    if c = '\t' then
      let count := if size = 0 then 0 else size - column % size
      List.replicate count (kind.ofChar ' ') ++ expanded kind size (column + count) rest
    else
      letter :: expanded kind size (if c = '\n' || c = '\r' then 0 else column + 1) rest

/-- The single letter that fills a field. -/
def fillLetter (kind : Letters α) (fill : Value) : Action α := do
  match ← kind.argument fill with
  | [letter] => return letter
  | _ => fail (.misuse .operands)

/-- The methods that trim a string or fill a field with it; `none` for any other name. -/
def fillMethod? (call : Caller) (kind : Letters α) (letters : List α) (name : String)
    (arguments : List Value) : Option (Action Value) :=
  let pad (width fill : Value) (before : Nat → Nat → Nat) : Action Value := do
    let width ← sizeNumber call width
    let letter ← fillLetter kind fill
    let missing := width.toNat - letters.length
    let first := before missing width.toNat
    kind.answer (List.replicate first letter ++ letters ++
      List.replicate (missing - first) letter)
  match name, arguments with
  | "strip", [chosen] => some do
    let test ← trimmedLetters kind chosen
    kind.answer (trimEnd test (trimStart test letters))
  | "lstrip", [chosen] => some do kind.answer (trimStart (← trimmedLetters kind chosen) letters)
  | "rstrip", [chosen] => some do kind.answer (trimEnd (← trimmedLetters kind chosen) letters)
  | "removeprefix", [opening] => some do
    let opening ← kind.argument opening
    kind.answer (if beginsWith letters opening then letters.drop opening.length else letters)
  | "removesuffix", [ending] => some do
    let ending ← kind.argument ending
    kind.answer (if endsWith letters ending then letters.take (letters.length - ending.length)
      else letters)
  | "ljust", [width, fill] => some (pad width fill fun _ _ => 0)
  | "rjust", [width, fill] => some (pad width fill fun missing _ => missing)
  | "center", [width, fill] => some (pad width fill fun missing width =>
      missing / 2 + missing % 2 * (width % 2))
  | "zfill", [width] => some do
    let missing := (← sizeNumber call width).toNat - letters.length
    let zeros := List.replicate missing (kind.ofChar '0')
    kind.answer (match letters with
      | first :: rest =>
        if kind.toChar first = '+' || kind.toChar first = '-' then first :: (zeros ++ rest)
        else zeros ++ letters
      | [] => zeros)
  | "expandtabs", [size] => some do
    let size ← shortNumber call size
    kind.answer (expanded kind size.toNat 0 letters)
  | _, _ => none

/-! ## All methods -/

/-- The letters of several strings. -/
def lettersOfAll (kind : Letters α) : List Value → Action (List (List α))
  | [] => return []
  | value :: rest => do
    let first ← kind.argument value
    return first :: (← lettersOfAll kind rest)

/-- The methods that all kinds of strings have; `none` for any other name. -/
def stringMethod? (machine : Machine) (kind : Letters α) (letters : List α) (name : String)
    (arguments : List Value) : Option (Action Value) :=
  match name, arguments with
  | "join", [items] => some do
    let items ← itemsOf machine items
    let parts ← lettersOfAll kind items
    kind.answer (List.flatten (List.intersperse letters parts))
  | "replace", [old, new, count] => some do
    let old ← kind.argument old
    let new ← kind.argument new
    kind.answer (substitute old new (← cutLimit machine.call count) letters)
  | name, arguments =>
    match kind.change? name, kind.test? name, arguments with
    | some change, _, [] => some (kind.answer (change letters))
    | none, some test, [] => some (return .bool (test letters))
    | _, _, _ =>
      (searchMethod? machine.call kind letters name arguments).or
        ((cutMethod? machine kind letters name arguments).or
          (fillMethod? machine.call kind letters name arguments))

end Action

end Deferred
