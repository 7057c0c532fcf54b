import Deferred.Call.SequenceMethod

/-!
# Exceptions

An exception keeps the arguments it was made with, and some classes of exceptions make named parts
of them.  A failure of the system chooses its class by its number, and a group of exceptions by what
is in it.
-/

namespace Deferred

/-- What a new exception is made of. -/
structure NewException where
  id : ClassId
  arguments : List Value
  parts : Bindings := []
  deriving Inhabited

namespace NewException

/-- One of the classes of exceptions that are always there. -/
def standard (name : String) : ClassId := .declared "builtins" name

/-- The classes of the failures of the system, by their numbers. -/
def systemClasses : List (Int × String) := [
  (1, "PermissionError"), (2, "FileNotFoundError"), (3, "ProcessLookupError"),
  (4, "InterruptedError"), (10, "ChildProcessError"), (11, "BlockingIOError"),
  (13, "PermissionError"), (17, "FileExistsError"), (20, "NotADirectoryError"),
  (21, "IsADirectoryError"), (32, "BrokenPipeError"), (103, "ConnectionAbortedError"),
  (104, "ConnectionResetError"), (108, "BrokenPipeError"), (110, "TimeoutError"),
  (111, "ConnectionRefusedError"), (114, "BlockingIOError"), (115, "BlockingIOError")]

/-- The names that a class of exceptions takes arguments by. -/
def keywordsOf (store : Store) (id : ClassId) : List String :=
  let below (name : String) : Bool := store.isSubclass id (standard name)
  if below "ImportError" then ["name", "path"]
  else if below "AttributeError" then ["name", "obj"]
  else if below "NameError" then ["name"]
  else []

end NewException

namespace Action

open NewException

/-- A failure of the system, from its number, its words and the files it is about. -/
def systemFailure (store : Store) (id : ClassId) (arguments : List Value) : NewException :=
  match arguments with
  | number :: words :: rest =>
    if 3 < rest.length then { id, arguments }
    else
      let chosen := if id = standard "OSError" then
          (((wholeEqual? store number).bind fun code => systemClasses.lookup code).map
            standard).getD id
        else id
      let parts := [("errno", number), ("strerror", words)]
      match rest with
      | [] => { id := chosen, arguments, parts }
      | .absent :: _ => { id := chosen, arguments, parts }
      | file :: others =>
        let second := (others[1]?).getD .absent
        let counts := chosen = standard "BlockingIOError" && (Number.ofValue? file).isSome
        let named := if counts then [("characters_written", file)] else
          ("filename", file) :: match second with
            | .absent => []
            | second => [("filename2", second)]
        { id := chosen, arguments := if counts then arguments else [number, words]
          parts := parts ++ named }
  | _ => { id, arguments }

/-- A failure to read code, from its words and the place it is about. -/
def unreadableCode (machine : Machine) (id : ClassId) (arguments : List Value) :
    Action NewException := do
  match arguments with
  | [words, place] => do
    let names := ["filename", "lineno", "offset", "text", "end_lineno", "end_offset"]
    let items ← itemsOf machine place
    if items.length = 4 ∨ items.length = 6 then
      return { id, arguments, parts := ("msg", words) :: names.zip items }
    else fail (.misuse .arguments)
  | words :: _ => return { id, arguments, parts := [("msg", words)] }
  | [] => return { id, arguments }

/-- Check that a value is text. -/
def checkText (value : Value) : Action Unit := do
  match (← store).plainOf value with
  | .text _ _ => done ()
  | _ => fail (.misuse .arguments)

/-- A failure between text and octets, from all of its parts. -/
def unreadableText (machine : Machine) (id : ClassId) (arguments : List Value) :
    Action NewException := do
  let store ← store
  let below (name : String) : Bool := store.isSubclass id (standard name)
  let places (start stop reason : Value) : Action Bindings := do
    let first ← sizeNumber machine.call start
    let last ← sizeNumber machine.call stop
    checkText reason
    return [("start", .ofInt first), ("end", .ofInt last), ("reason", reason)]
  match arguments with
  | [encoding, object, start, stop, reason] => do
    if below "UnicodeTranslateError" then fail (.misuse .arguments)
    checkText encoding
    let object ←
      if below "UnicodeEncodeError" then do
        checkText object
        done object
      else match store.octetsOf? object with
        | some content => done (.octets content 0)
        | none => fail (.misuse .arguments)
    return { id, arguments
             parts := ("encoding", encoding) :: ("object", object) ::
               (← places start stop reason) }
  | [object, start, stop, reason] => do
    if !below "UnicodeTranslateError" then fail (.misuse .arguments)
    checkText object
    return { id, arguments, parts := ("object", object) :: (← places start stop reason) }
  | _ => fail (.misuse .arguments)

/-- Check that the items of a group are exceptions; `place` is the place of the first of them. -/
def checkMembers (store : Store) (place : Nat) : List Value → Action Unit
  | [] => done ()
  | item :: rest =>
    if store.isInstance item ClassId.baseException then checkMembers store (place + 1) rest
    else fail (.badValue ("Item " ++ toString place ++
      " of second argument (exceptions) is not an exception"))

/-- A group of exceptions, from its words and the exceptions in it. -/
def exceptionGroup (machine : Machine) (id : ClassId) (arguments : List Value) :
    Action NewException := do
  let store ← store
  match arguments with
  | [words, members] => do
    checkText words
    if (store.slotsOf? members).isSome ∨ (store.entriesOf? members).isSome ∨
        (knownLength? store members).isNone then
      fail (.misuse .arguments)
    let items ← itemsOf machine members
    if items.isEmpty then
      fail (.badValue "second argument (exceptions) must be a non-empty sequence")
    checkMembers store 0 items
    let isPlain := items.all (store.isInstance · (standard "Exception"))
    let group := standard "ExceptionGroup"
    if !isPlain && store.isSubclass id group then fail (.misuse .arguments)
    let id := if isPlain && id = standard "BaseExceptionGroup" then group else id
    return { id, arguments, parts := [("message", words), ("exceptions", .tuple items 0)] }
  | _ => fail (.misuse .arguments)

/-- What a new exception of a class is made of. -/
def newException (machine : Machine) (id : ClassId) (arguments : Arguments) :
    Action NewException := do
  let store ← store
  let below (name : String) : Bool := store.isSubclass id (standard name)
  let positional := arguments.positional
  let known := keywordsOf store id
  if arguments.keywords.any fun (name, _) => !known.contains name then fail (.misuse .arguments)
  if below "StopIteration" then
    return { id, arguments := positional
             parts := [("value", (positional.head?).getD .absent)] }
  else if below "SystemExit" then
    return { id, arguments := positional
             parts := [("code", match positional with
               | [] => .absent
               | [code] => code
               | several => .tuple several 0)] }
  else if below "ImportError" then
    return { id, arguments := positional
             parts := (match positional with
               | [words] => [("msg", words)]
               | _ => []) ++ arguments.keywords }
  else if below "OSError" then return systemFailure store id positional
  else if below "SyntaxError" then unreadableCode machine id positional
  else if ["UnicodeEncodeError", "UnicodeDecodeError", "UnicodeTranslateError"].any below then
    unreadableText machine id positional
  else if below "BaseExceptionGroup" then exceptionGroup machine id positional
  else return { id, arguments := positional, parts := arguments.keywords }

/-- Make an exception. -/
def constructException (machine : Machine) (id : ClassId) (arguments : Arguments) :
    Action Value := do
  let made ← newException machine id arguments
  allocate made.id (.exception made.arguments) made.parts

/-- Add a note to an exception. -/
def addNote (call : Caller) (receiver note : Value) : Action Unit := do
  checkText note
  match (← store).ownAttribute? receiver "__notes__" with
  | none => do assignAttribute call receiver "__notes__" (← newList [note])
  | some notes =>
    match notes, (← store).listOf? notes with
    | .object _ place, some items => perform (.setItems place (items ++ [note]))
    | _, _ => fail (.misuse .operands)

/-- The methods of an exception; `none` for any other name. -/
def exceptionMethod? (machine : Machine) (receiver : Value) (name : String)
    (arguments : List Value) : Option (Action Value) :=
  match name, arguments with
  | "with_traceback", [.absent] => some (return receiver)
  | "with_traceback", _ => some (fail (.misuse .operands))
  | "add_note", [note] => some (silently (addNote machine.call receiver note))
  | "__init__", arguments => some do
    let made ← newException machine receiver.classId (.ofList arguments)
    silently (forEach (("args", .tuple made.arguments 0) :: made.parts) fun (name, value) =>
      setAttribute receiver name value)
  | _, _ => none

end Action

end Deferred
