import Deferred.Call.Iterate
import Deferred.Number.Layout

/-!
# Values as text

A value is turned into text by the methods that were put on its class for that, or by what it is.
Written into a field it follows the layout that is asked for.
-/

namespace Deferred.Action

/-- What a special method answers that has to give text. -/
def mustBeText (answer : Value) : Action Value := do
  match (← store).plainOf answer with
  | .text _ _ => return answer
  | _ => fail (.misuse .operands)

/-- A fault, or what an action goes on with. -/
def orFault {α : Type} : Except Fault α → Action α
  | .ok value => return value
  | .error fault => fail fault

/-- A value to tell, as text on its own or as it is shown inside others. -/
structure Telling where
  value : Value
  isAlone : Bool := false

/-- What is told of the parts of a value, in turn.  A field that holds nothing cannot be told. -/
def toldParts (store : Store) (telling : Telling) : Except Fault (List Telling) :=
  let shown (values : List Value) : List Telling := values.map fun value => { value }
  let value := telling.value
  match value, store.objectOf? value with
  | .tuple items _, _ => .ok (shown items)
  | .pattern names _, _ => .ok (shown names)
  | .entity index _, _ => .ok [⟨index, true⟩]
  | .success inner _, _ => .ok [⟨inner, true⟩]
  | .failure inner _, _ => .ok [⟨inner, true⟩]
  | .bound receiver function _, _ =>
    .ok (if (store.functionOf? function).isSome then shown [receiver] else [])
  | value, some object =>
    match store.missingField? value, store.fieldsOf? value, object with
    | some name, _, _ => .error (.noAttribute name)
    | none, some fields, _ => .ok (shown (fields.map Prod.snd))
    | none, none, .list items => .ok (shown items)
    | none, none, .set slots => .ok (shown slots.toList)
    | none, none, .dict entries => .ok (shown (entries.flatMap fun (key, value) => [key, value]))
    | none, none, .view part table =>
      .ok (shown (Store.partItems part ((store.entriesOf? table).getD [])))
    | none, none, .extended base => .ok [⟨base, telling.isAlone⟩]
    | none, none, .partialCall function positional keywords =>
      .ok (shown (function :: positional ++ keywords.map Prod.snd))
    | none, none, .exception arguments =>
      match store.argumentsOf value arguments with
      | [argument] => .ok [⟨argument, telling.isAlone &&
          !store.isInstance value (.declared "builtins" "KeyError")⟩]
      | arguments => .ok (shown arguments)
    | none, none, _ => .ok []
  | _, none => .ok []

/-- The text that methods on the class of a value give for it. -/
def ownText? (call : Caller) (telling : Telling) : Action (Option Value) := do
  let first ← if telling.isAlone then callSpecial? call telling.value "__str__" [] else done none
  let found ← match first with
    | some answer => done (some answer)
    | none => callSpecial? call telling.value "__repr__" []
  match found with
  | some answer => return some (← mustBeText answer)
  | none => return none

/-- What an action finds for each of some items, one after the other. -/
def gather {α β : Type} (step : α → Action (List β)) : List α → Action (List β)
  | [] => return []
  | item :: rest => do
    let found ← step item
    return found ++ (← gather step rest)

/-- What an action finds for the parts of a value that are told, given the objects around them.  Whole
numbers that are too long cannot be told. -/
def amongParts {α : Type} (step : List Ref → Telling → Action (List α)) (opened : List Ref)
    (telling : Telling) : Action (List α) := do
  match telling.value with
  | .int number _ => if Text.isOverlong number then fail (.tooManyDigits "") else return []
  | .range start stop step _ =>
    if [start, stop, step].any Text.isOverlong then fail (.tooManyDigits "") else return []
  | .object _ place => gather (step (place :: opened)) (← orFault (toldParts (← store) telling))
  | _ => gather (step opened) (← orFault (toldParts (← store) telling))

/-- The texts that methods give for the objects in a value, looking into it to a depth of at most
`bound`; `opened` are the objects around it. -/
def spellings (call : Caller) : Nat → List Ref → Telling → Action (List (Ref × String))
  | 0, _, _ => return []
  | bound + 1, opened, telling => do
    match telling.value with
    | .object _ place =>
      if opened.contains place then return []
      else
        match ← ownText? call telling with
        | some text => return [(place, (← store).textOf text)]
        | none => amongParts (spellings call bound) opened telling
    | _ => amongParts (spellings call bound) opened telling

/-- A value as the store tells it, with the texts that methods give for the objects in it. -/
def told (call : Caller) (telling : Telling) : Action Value := do
  let spelled ← amongParts (spellings call (← store).depthBound) [] telling
  let store ← store
  let around : Store.Backdrop := { spelled }
  fresh (.text (if telling.isAlone then store.textAmid around telling.value
    else store.describeAmid around telling.value))

/-- A value as it is shown inside others, by its class where that has a way of its own. -/
def shownText (call : Caller) (value : Value) : Action Value := do
  match ← ownText? call { value } with
  | some text => return text
  | none => told call { value }

/-- A value as text. -/
def toText (call : Caller) (value : Value) : Action Value := do
  let telling : Telling := ⟨value, true⟩
  match ← ownText? call telling with
  | some text => return text
  | none =>
    match value with
    | .text _ _ => return value
    | _ => told call telling

/-- The characters of what an action answers with. -/
def lettersOf (action : Action Value) : Action (List Char) := do
  let answer ← action
  return ((← store).textOf answer).toList

/-- A value as it is shown, with everything beyond ASCII by its code point. -/
def plainText (call : Caller) (value : Value) : Action Value := do
  let letters ← lettersOf (shownText call value)
  fresh (.text (Text.plainForm (String.ofList letters)))

/-- A text in a field. -/
def textInField (text spec : String) : Except Fault (List Char) := do
  let layout ← Number.orBadValue (Text.Layout.parse .left (some 's') "str" spec)
  match layout.form with
  | none => Number.orBadValue (layout.ofText text.toList)
  | some 's' => Number.orBadValue (layout.ofText text.toList)
  | some form => throw (.badValue (Text.Layout.unknownForm form "str"))

/-- A value in a field.  Without a layout it is the value as text. -/
def inField (call : Caller) (value : Value) (spec : String) : Action Value := do
  match ← callSpecial? call value "__format__" [.ofText spec] with
  | some answer => mustBeText answer
  | none =>
    if spec = "" then toText call value
    else do
      let store ← store
      let plain := store.plainOf value
      match plain, Number.ofValue? plain with
      | .text text _, _ => do
        let letters ← orFault (textInField text spec)
        fresh (.text (String.ofList letters))
      | _, some number => do
        let letters ← orFault (number.inField (store.className value.classId) spec)
        fresh (.text (String.ofList letters))
      | _, none => fail (.misuse .operands)

end Deferred.Action
