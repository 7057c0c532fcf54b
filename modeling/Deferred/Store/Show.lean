import Deferred.Hint.Form
import Deferred.Store.Basic
import Deferred.Text.Decimal

/-!
# Values as they are shown

A value is shown in two ways: as an answer, which keeps its structure, and as text inside a
message.  Values can be nested to any depth, so both walks stop at a bound that no finite value of a
store reaches; an object that is met again inside itself is shown by a mark.
-/

namespace Deferred.Store

open Deferred.Text

/-- A bound on the depth to which values are shown. -/
def depthBound (store : Store) : Nat := store.cells.size + 1000

/-- The index of the entity that a handle is for. -/
def handleIndex (store : Store) (value : Value) : Value :=
  match store.ownAttribute? value "_entity" with
  | some (.entity index _) => index
  | _ => .absent

/-- How many commands wait behind a handle of a queue. -/
def queuedCount (store : Store) (value : Value) : Nat :=
  match (store.ownAttribute? value "_queue").bind store.pendingOf? with
  | some pending => pending.length
  | none => 0

/-- The value of a field, if it has one: an attribute of the object, or else of its class. -/
def fieldValue? (store : Store) (value : Value) (name : String) : Option Value :=
  (store.ownAttribute? value name).or ((store.ancestors value.classId).findSome? fun id =>
    store.classAttribute? id name)

/-- The value of a field. -/
def fieldValue (store : Store) (value : Value) (name : String) : Value :=
  (store.fieldValue? value name).getD .absent

/-- The names of the fields of a value, if its class is made of fields. -/
def fieldNames? (store : Store) (value : Value) : Option (List String) :=
  let id := value.classId
  match store.recordFields? id with
  | some fields => some (fields.map RecordField.name)
  | none =>
    if id.isComponent then some ["value"]
    else if id.isFrozen then some ((store.attributesOf value).map Prod.fst)
    else none

/-- The fields of a value with what they hold, if its class is made of fields. -/
def fieldsOf? (store : Store) (value : Value) : Option Bindings :=
  (store.fieldNames? value).map fun names =>
    names.map fun name => (name, store.fieldValue value name)

/-- A field of a value that holds nothing, since it was taken away. -/
def missingField? (store : Store) (value : Value) : Option String :=
  ((store.fieldNames? value).getD []).find? fun name => (store.fieldValue? value name).isNone

/-- Texts with a comma and a blank between any two. -/
def listed (items : List String) : String := String.intercalate ", " items

/-- Items between two marks. -/
def between (opening closing : String) (items : List String) : String :=
  opening ++ listed items ++ closing

/-- The type of functions that take some types and give the last one. -/
def callableText (types : List String) : String :=
  let taken := if types.dropLast = ["..."] then "..." else between "[" "]" types.dropLast
  "typing.Callable[" ++ taken ++ ", " ++ types.getLastD "" ++ "]"

/-- Items in parentheses, a single one with a comma behind it. -/
def inParentheses (items : List String) : String :=
  match items with
  | [item] => "(" ++ item ++ ",)"
  | items => between "(" ")" items

/-- A name that a class was given after it was made, or the one it was made with. -/
def givenName (store : Store) (id : ClassId) (slot otherwise : String) : String :=
  match store.classAttribute? id slot with
  | some (.text name _) => name
  | _ => otherwise

/-- The name that a class goes by. -/
def className (store : Store) (id : ClassId) : String := store.givenName id "__name__" id.name

/-- The name of a class among the names of its module. -/
def classQualname (store : Store) (id : ClassId) : String :=
  store.givenName id "__qualname__" id.name

/-- The dotted path of a class; the classes that need no module have none in their path. -/
def classPath (store : Store) (id : ClassId) : String :=
  let home := store.givenName id "__module__" id.home
  if home = "builtins" then store.className id else home ++ "." ++ store.classQualname id

/-- An object of which nothing but its class is told. -/
def anonymous (store : Store) (id : ClassId) : String :=
  "<" ++ store.classPath id ++ " object at 0x0>"

/-- A class as it is shown on its own. -/
def spellClass (store : Store) (id : ClassId) : String :=
  if id = ClassId.any then "typing.Any" else "<class '" ++ store.classPath id ++ "'>"

/-- Modules that are part of the system itself. -/
def innerModules : List String :=
  ["sys", "builtins", "_abc", "_ast", "_codecs", "_collections", "_functools", "_imp", "_io",
    "_locale", "_operator", "_signal", "_sre", "_stat", "_string", "_symtable", "_thread",
    "_tokenize", "_tracemalloc", "_warnings", "_weakref", "atexit", "errno", "faulthandler", "gc",
    "itertools", "marshal", "posix", "pwd", "time", "xxsubtype"]

/-- Modules that are stored inside the system. -/
def storedModules : List String :=
  ["__hello__", "__phello__", "__phello__.spam", "_collections_abc", "_frozen_importlib",
    "_frozen_importlib_external", "_sitebuiltins", "abc", "codecs", "genericpath",
    "importlib.machinery", "importlib.util", "io", "ntpath", "os", "posixpath", "runpy", "site",
    "stat", "zipimport"]

/-- The names that modules have themselves, of those that are kept under other names. -/
def innerNames : List (String × String) :=
  [("importlib._bootstrap", "_frozen_importlib"),
    ("importlib._bootstrap_external", "_frozen_importlib_external"), ("os.path", "posixpath")]

/-- A module as it is shown. -/
def spellModule (name : String) : String :=
  let name := (innerNames.lookup name).getD name
  "<module " ++ quote name ++
    (if innerModules.contains name then " (built-in)>"
    else if storedModules.contains name then " (frozen)>"
    else ">")

/-- A function of a class that is there from the start. -/
def spellHostMethod (owner : ClassId) (name : String) : String :=
  let kind := ClassId.functionKind owner name
  if kind = ClassId.function then "<function " ++ owner.name ++ "." ++ name ++ " at 0x0>"
  else if kind.name = "property" then "<property object at 0x0>"
  else if kind.name = "member_descriptor" ∨ kind.name = "getset_descriptor" then
    "<" ++ (if kind.name = "member_descriptor" then "member " else "attribute ") ++ quote name ++
      " of " ++ quote owner.name ++ " objects>"
  else if kind = ClassId.slotWrapper then
    "<slot wrapper " ++ quote name ++ " of " ++ quote owner.name ++ " objects>"
  else "<method " ++ quote name ++ " of " ++ quote owner.name ++ " objects>"

/-- What is shown for an object that is met inside itself. -/
def spellAgain (id : ClassId) : Object → String
  | .list _ => "[...]"
  | .set _ => id.name ++ "(...)"
  | .dict _ =>
    if id = ClassId.mappingView then "mappingproxy(\x7b...\x7d)" else "\x7b...\x7d"
  | _ => "..."

/-- The dotted name that something with a name and a module is told by. -/
def dottedName (home name : String) : String :=
  if home = "builtins" then name else home ++ "." ++ name

/-- Is this a class with a fixed set of named instances? -/
def isEnumeration (id : ClassId) : Bool := id = ClassId.mode || id = ClassId.parameterKind

/-- The words of a text value. -/
def plainText : Value → String
  | .text value _ => value
  | _ => ""

/-- The places from one to another, as a message names them. -/
def placesText (start stop : Nat) : String := toString start ++ "-" ++ toString (stop - 1)

/-- What is said of characters with which something cannot be done. -/
def faultyCharacters (opening : String) (letters : List Char) (start stop : Nat)
    (reason : String) : String :=
  opening ++ " " ++
    (match if stop = start + 1 then letters[start]? else none with
    | some c =>
      "character '" ++ String.ofList (escapePoint c) ++ "' in position " ++ toString start
    | none => "characters in position " ++ placesText start stop) ++ ": " ++ reason

/-- What is said of characters that an encoding does not have. -/
def unencodable (encoding : String) (letters : List Char) (start stop : Nat) (reason : String) :
    String :=
  faultyCharacters (quote encoding ++ " codec can't encode") letters start stop reason

/-- What is said of octets that stand for no character. -/
def undecodable (encoding : String) (octets : List UInt8) (start stop : Nat) (reason : String) :
    String :=
  quote encoding ++ " codec can't decode " ++
    (match if stop = start + 1 then octets[start]? else none with
    | some octet =>
      "byte 0x" ++ String.ofList (hexDigits 2 octet.toNat) ++ " in position " ++ toString start
    | none => "bytes in position " ++ placesText start stop) ++ ": " ++ reason

/-- What is said of text that could not be turned into octets, or of octets into text; `below` tells
the class of the exception and `part` its parts. -/
def conversionText? (below : String → Bool) (part : String → Value) : Option String :=
  match part "object", part "start", part "end", part "reason" with
  | .text object _, .int start _, .int stop _, .text reason _ =>
    if below "UnicodeTranslateError" then
      some (faultyCharacters "can't translate" object.toList start.toNat stop.toNat reason)
    else
      some (unencodable (plainText (part "encoding")) object.toList start.toNat stop.toNat reason)
  | .octets object _, .int start _, .int stop _, .text reason _ =>
    some (undecodable (plainText (part "encoding")) object start.toNat stop.toNat reason)
  | _, _, _, _ => none

/-- The place that an exception about code names, behind its words. -/
def codePlace (file line : Value) : String :=
  let name? := match file with
    | .text path _ => some (((path.splitOn "/").getLast?).getD path)
    | _ => none
  let line? := match line with
    | .int number _ => some ("line " ++ toString number)
    | _ => none
  match name?, line? with
  | some name, some line => " (" ++ name ++ ", " ++ line ++ ")"
  | some name, none => " (" ++ name ++ ")"
  | none, some line => " (" ++ line ++ ")"
  | none, none => ""

/-- The arguments of an exception: those it was set to, else those it was made with. -/
def argumentsOf (store : Store) (value : Value) (arguments : List Value) : List Value :=
  match store.ownAttribute? value "args" with
  | some (.tuple items _) => items
  | _ => arguments

/-- What is known where a value is told: the objects that it is inside of, and texts that stand for
objects. -/
structure Backdrop where
  opened : List Ref := []
  spelled : List (Ref × String) := []

/-- The backdrop of what is inside an object. -/
def Backdrop.inside (around : Backdrop) (place : Ref) : Backdrop :=
  { around with opened := place :: around.opened }

mutual

/-- A value as text, to a depth of at most `bound`; `around` is its backdrop. -/
def describeWithin (store : Store) (around : Backdrop) : Nat → Value → String
  | 0, value => store.anonymous value.classId
  | bound + 1, value =>
    let describe := store.describeWithin around bound
    match value with
    | .absent => "None"
    | .ellipsis => "Ellipsis"
    | .bool value => if value then "True" else "False"
    | .int value _ => toString value
    | .float value _ => floatText value
    | .text value _ => quote value
    | .tuple items _ => inParentheses (items.map describe)
    | .complex real imaginary _ => complexText real imaginary
    | .octets content _ => quoteOctets content
    | .range start stop step _ =>
      between "range(" ")" ([toString start, toString stop] ++
        if step = 1 then [] else [toString step])
    | .slice start stop step _ => between "slice(" ")" ([start, stop, step].map describe)
    | .declined => "NotImplemented"
    | .entity index _ => "Entity(" ++ store.textWithin around bound index ++ ")"
    | .pattern names _ => between "Bind(" ")" (names.map describe)
    | .success value _ => "<Success: " ++ store.textWithin around bound value ++ ">"
    | .failure value _ => "<Failure: " ++ store.textWithin around bound value ++ ">"
    | .cls id => store.spellClass id
    | .typeVariable name => "~" ++ name
    | .special name => "typing." ++ name
    | .applied id arguments _ =>
      if id = ClassId.callable then
        callableText (arguments.map (store.typeArgument around bound))
      else if id.isBuiltinGeneric then
        id.name ++ "[" ++
          (if arguments.isEmpty then "()"
          else listed (arguments.map (store.namedArgument around bound))) ++ "]"
      else
        dottedName id.home id.name ++ "[" ++
          (if arguments.isEmpty then "()"
          else listed (arguments.map (store.typeArgument around bound))) ++ "]"
    | .optional inner => "typing.Optional[" ++ store.typeArgument around bound inner ++ "]"
    | .classVar inner => "typing.ClassVar[" ++ store.typeArgument around bound inner ++ "]"
    | .annotated inner notes =>
      between "typing.Annotated[" "]"
        (store.typeArgument around bound inner :: notes.map describe)
    | .forward text => "ForwardRef(" ++ quote text ++ ")"
    | .module name => spellModule name
    | .builtin name => "<built-in function " ++ name ++ ">"
    | .hostMethod owner name => spellHostMethod owner name
    | .bound receiver function _ =>
      match function with
      | .hostMethod owner name =>
        let kind := ClassId.methodKind owner name
        if kind = ClassId.boundSlot then
          "<method-wrapper " ++ quote name ++ " of " ++ receiver.classId.name ++ " object at 0x0>"
        else if kind = ClassId.builtin then
          "<built-in method " ++ name ++ " of " ++ receiver.classId.name ++ " object at 0x0>"
        else "<bound method " ++ owner.name ++ "." ++ name ++ " of " ++ describe receiver ++ ">"
      | function =>
        "<bound method " ++
          (((store.functionOf? function).map FunctionObject.qualname).getD "?") ++ " of " ++
          describe receiver ++ ">"
    | .noInput => "<object object at 0x0>"
    | .object id place =>
      match store.object? place with
      | none => store.anonymous id
      | some object =>
        match around.spelled.lookup place with
        | some text => text
        | none =>
          if around.opened.contains place then spellAgain id object
          else store.describeObject (around.inside place) bound value id object

/-- An object as text. -/
def describeObject (store : Store) (around : Backdrop) :
    Nat → Value → ClassId → Object → String
  | 0, _, id, _ => store.anonymous id
  | bound + 1, value, id, object =>
    let describe := store.describeWithin around bound
    let entriesText (entries : List (Value × Value)) : String :=
      between "\x7b" "\x7d"
        (entries.map fun (key, value) => describe key ++ ": " ++ describe value)
    if isEnumeration id then
      let part (name : String) : Value := (store.ownAttribute? value name).getD .absent
      "<" ++ id.name ++ "." ++ plainText (part "name") ++ ": " ++ describe (part "value") ++ ">"
    else
    match store.fieldsOf? value with
    | some fields =>
      between (store.classQualname id ++ "(") ")"
        (fields.map fun (name, value) => name ++ "=" ++ describe value)
    | none =>
      match object with
      | .list items =>
        let text := between "[" "]" (items.map describe)
        if store.isSubclass id ClassId.list then text else id.name ++ "(" ++ text ++ ")"
      | .set slots =>
        let text := between "\x7b" "\x7d" (slots.toList.map describe)
        if slots.size = 0 then store.className id ++ "()"
        else if id = ClassId.set then text else store.className id ++ "(" ++ text ++ ")"
      | .view part table =>
        let entries := match store.objectOf? table with
          | some (.dict entries) => entries
          | _ => []
        between (id.name ++ "([") "])" (match part with
          | .keys => entries.map fun (key, _) => describe key
          | .values => entries.map fun (_, value) => describe value
          | .items => entries.map fun (key, value) => inParentheses [describe key, describe value])
      | .octets content => store.className id ++ "(" ++ quoteOctets content ++ ")"
      | .dict entries =>
        if id = ClassId.mappingView then "mappingproxy(" ++ entriesText entries ++ ")"
        else entriesText entries
      | .extended base => describe base
      | .exception arguments =>
        between (store.className id ++ "(") ")" ((store.argumentsOf value arguments).map describe)
      | .function function => "<function " ++ function.qualname ++ " at 0x0>"
      | .partialCall function positional keywords =>
        between "functools.partial(" ")"
          (describe function :: positional.map describe ++
            keywords.map fun (name, value) => name ++ "=" ++ describe value)
      | .iteration (.query _) => "<generator object Query.items at 0x0>"
      | .iteration (.running _ _) => "<generator object Query.items at 0x0>"
      | .iteration (.seconds _) =>
        "<generator object Query.__iter__.<locals>.<genexpr> at 0x0>"
      | .plain =>
        if id = ClassId.staticMethodWrapper ∨ id = ClassId.classMethodWrapper then
          "<" ++ id.name ++ "(" ++
            describe ((store.ownAttribute? value "__func__").getD .absent) ++ ")>"
        else if id = ClassId.memory then "<memory at 0x0>"
        else store.anonymous id
      | _ => store.anonymous id

/-- A value as text on its own: text stands for itself. -/
def textWithin (store : Store) (around : Backdrop) : Nat → Value → String
  | 0, value => store.anonymous value.classId
  | bound + 1, value =>
    match value with
    | .text value _ => value
    | .object id place =>
      if let some text := around.spelled.lookup place then text else
      if isEnumeration id then
        let name := plainText ((store.ownAttribute? value "name").getD .absent)
        if id = ClassId.parameterKind then name else id.name ++ "." ++ name
      else
      if id = ClassId.span then
        let part (name : String) : String :=
          store.textWithin around bound ((store.ownAttribute? value name).getD .absent)
        let segment := part "segment"
        part "file" ++ ":" ++ part "line" ++ ":" ++ part "column" ++
          (if segment = "" then "" else " (" ++ "\x60" ++ segment ++ "\x60)")
      else
      match store.object? place with
      | some (.exception arguments) => store.exceptionText around bound value arguments
      | some (.extended (.text value _)) => value
      | _ => store.describeWithin around bound value
    | value => store.describeWithin around bound value

/-- An exception as text on its own. -/
def exceptionText (store : Store) (around : Backdrop) : Nat → Value → List Value → String
  | 0, value, _ => store.anonymous value.classId
  | bound + 1, value, arguments =>
    let text := store.textWithin around bound
    let describe := store.describeWithin around bound
    let below (name : String) : Bool := store.isInstance value (.declared "builtins" name)
    let part? (name : String) : Option Value := store.ownAttribute? value name
    let part (name : String) : Value := (part? name).getD .absent
    let arguments := store.argumentsOf value arguments
    let otherwise := match arguments with
      | [] => ""
      | [argument] => if below "KeyError" then describe argument else text argument
      | arguments => inParentheses (arguments.map describe)
    if below "OSError" then
      match part? "errno", part? "strerror", part? "filename" with
      | some number, some words, none => "[Errno " ++ text number ++ "] " ++ text words
      | number, words, some file =>
        "[Errno " ++ text (number.getD .absent) ++ "] " ++ text (words.getD .absent) ++ ": " ++
          describe file ++
          ((part? "filename2").map fun second => " -> " ++ describe second).getD ""
      | _, _, none => otherwise
    else if below "SyntaxError" then
      text (part "msg") ++ codePlace (part "filename") (part "lineno")
    else if below "ImportError" then
      match part "msg" with
      | .text words _ => words
      | _ => otherwise
    else if below "BaseExceptionGroup" then
      let count := (part "exceptions").elements.length
      text (part "message") ++ " (" ++ toString count ++ " sub-exception" ++
        (if count = 1 then ")" else "s)")
    else if ["UnicodeEncodeError", "UnicodeDecodeError", "UnicodeTranslateError"].any below then
      (conversionText? below part).getD ""
    else otherwise

/-- An argument of a class that is always there. -/
def namedArgument (store : Store) (around : Backdrop) : Nat → Value → String
  | 0, value => store.anonymous value.classId
  | bound + 1, value =>
    match value with
    | .ellipsis => "..."
    | .cls id => store.classPath id
    | .builtin name => name
    | .hostMethod owner name => dottedName owner.home (owner.name ++ "." ++ name)
    | .bound _ function _ => store.namedArgument around bound function
    | value =>
      match store.functionOf? value with
      | some function => dottedName (plainText function.home) function.qualname
      | none => store.describeWithin around bound value

/-- An argument of any other generic class. -/
def typeArgument (store : Store) (around : Backdrop) : Nat → Value → String
  | 0, value => store.anonymous value.classId
  | bound + 1, value =>
    match value with
    | .ellipsis => "..."
    | .cls id => store.classPath id
    | .hostMethod owner name =>
      if owner.isStandard then store.describeWithin around bound value else name
    | value =>
      match store.functionOf? value with
      | some function => function.name
      | none => store.describeWithin around bound value

end

/-- A value as it is shown inside others, against its backdrop. -/
def describeAmid (store : Store) (around : Backdrop) (value : Value) : String :=
  store.describeWithin around (4 * store.depthBound) value

/-- A value as text on its own, against its backdrop. -/
def textAmid (store : Store) (around : Backdrop) (value : Value) : String :=
  store.textWithin around (4 * store.depthBound) value

/-- A value as text inside a message. -/
def describe (store : Store) (value : Value) : String :=
  store.describeAmid {} value

/-- A value as text on its own: text stands for itself. -/
def textOf (store : Store) (value : Value) : String :=
  store.textAmid {} value

/-- A value as it is shown in an answer, to a depth of at most `bound`. -/
def shownWithin (store : Store) : Nat → Value → Shown
  | 0, value => .other (store.className value.classId)
  | bound + 1, value =>
    let shown := store.shownWithin bound
    match value with
    | .absent => .absent
    | .bool value => .bool value
    | .int value _ => .int value
    | .float value _ => .float value
    | .text value _ => .text value
    | .tuple items _ => .tuple (items.map shown)
    | .entity index _ => .entity (shown index)
    | .success value _ => .success (shown value)
    | .failure value _ => .failure (shown value)
    | .cls id => .type (store.spellClass id)
    | .typeVariable name => .type ("~" ++ name)
    | .special name =>
      if name = "Self" then .type "typing.Self"
      else .other (if name = "Callable" then "_CallableType" else "_SpecialForm")
    | .module name => .module name
    | .builtin name => .function name
    | .hostMethod _ name =>
      if value.classId = ClassId.function then .function name
      else .other (store.className value.classId)
    | .bound _ (.hostMethod owner name) _ =>
      if owner.isStandard && ClassId.methodKind owner name = ClassId.builtin then .function name
      else .other (store.className value.classId)
    | .bound _ (.builtin name) _ => .function name
    | .object id place =>
      match store.object? place with
      | some (.list items) =>
        if store.isSubclass id ClassId.list then .list (items.map shown)
        else .other (store.className id)
      | some (.dict entries) =>
        if store.isSubclass id ClassId.dict then
          .dict (entries.map fun (key, value) => (shown key, shown value))
        else .other (store.className id)
      | some (.extended base) => shown base
      | some (.function function) => .function function.name
      | _ =>
        match store.recordFields? id with
        | some fields => .record (store.className id)
            (fields.map fun field => (field.name, shown (store.fieldValue value field.name)))
        | none =>
          if id.isComponent then
            .component (store.className id) (shown (store.fieldValue value "value"))
          else if store.isSubclass id ClassId.commands then
            .queued (store.className id) (store.queuedCount value)
          else if id = ClassId.commandQueue then
            .queued (store.className id) ((store.pendingOf? value).getD []).length
          else if id = ClassId.entityCommands ∨ id = ClassId.entityAccess then
            .handle (store.className id) (shown (store.handleIndex value))
          else .other (store.className id)
    | .applied _ _ _ => .type (store.describe value)
    | .optional _ => .type (store.describe value)
    | .classVar _ => .type (store.describe value)
    | .annotated _ _ => .type (store.describe value)
    | value => .other (store.className value.classId)

/-- A value as it is shown in an answer. -/
def shown (store : Store) (value : Value) : Shown :=
  store.shownWithin store.depthBound value

end Deferred.Store
