import Deferred.Hint.Form
import Deferred.Value

/-!
# Resolving annotations

Resolving finds the meaning of a written annotation among the names in scope.  Names and brackets
are evaluated first, from the outside in and from left to right; text quoted inside is read and
resolved afterwards.  The first thing that has no meaning stops the resolution.

A class that is always there takes anything between its brackets.  Every other generic class reads
absence as the class of absence there and quoted text as an annotation of its own.
-/

namespace Deferred.Hint

/-- Why an annotation has no meaning. -/
inductive ResolveError where
  | undefined (name : String)
  /-- A value takes no brackets. -/
  | takesNone (subject : Value)
  /-- A generic class was given the wrong number of types; `open` marks a lower limit. -/
  | arity (generic : Value) (actual expected : Nat) (isLower : Bool)
  /-- A type has no variables left to fill. -/
  | notGeneric (type : Value)
  | notAnArgument (type : Value)
  | plainForm (type : Value)
  /-- Something is no type where one must stand. -/
  | notAType (place : String) (given : Value)
  | notesMissing
  /-- The type of a function was not given what the function takes and what it gives. -/
  | callableForm
  | badKey (subject key : Value)
  | unhashable (key : Value)
  | notCallable (subject : Value)
  /-- Quoted text that is no annotation at all. -/
  | unreadable (text : String)
  | emptyText
  /-- Quoted text that holds the character that ends texts elsewhere. -/
  | nullCharacter
  | badIndex
  | keyMissing (key : Value)
  | noAttribute (name : String)
  deriving Inhabited

namespace ResolveError

/-- Does the error say that a name or a type is wrong, rather than that the text cannot be read or
a look-up failed? -/
def isDiagnosed : ResolveError → Bool
  | unreadable _ => false
  | emptyText => false
  | nullCharacter => false
  | badIndex => false
  | keyMissing _ => false
  | noAttribute _ => false
  | _ => true

/-- The name of the kind of a key; the alias of a class that is always there is named in full. -/
def kindOfKey (key : Value) : String :=
  if key.classId = ClassId.builtinAlias then "types.GenericAlias" else key.classId.name

/-- What is wrong, in words; `describe` shows a value. -/
def message (describe : Value → String) : ResolveError → String
  | undefined name => "name '" ++ name ++ "' is not defined"
  | takesNone subject =>
    match subject with
    | .cls id => "type '" ++ id.name ++ "' is not subscriptable"
    | .special name => "typing." ++ name ++ " is not subscriptable"
    | subject => "'" ++ subject.classId.name ++ "' object is not subscriptable"
  | arity generic actual expected isLower =>
    "Too " ++ (if expected < actual then "many" else "few") ++ " arguments for " ++
      describe generic ++ "; actual " ++ toString actual ++ ", expected " ++
      (if isLower && actual < expected then "at least " else "") ++ toString expected
  | notGeneric type => describe type ++ " is not a generic class"
  | notAnArgument type => describe type ++ " is not valid as type argument"
  | plainForm type => "Plain " ++ describe type ++ " is not valid as type argument"
  | notAType place given => place ++ " Got " ++ ((describe given).take 100).toString ++ "."
  | notesMissing =>
    "Annotated[...] should be used with at least two arguments (a type and an annotation)."
  | callableForm => "Callable must be used as Callable[[arg, ...], result]."
  | badKey subject key =>
    match subject with
    | .tuple _ _ => "tuple indices must be integers or slices, not " ++ kindOfKey key
    | .text _ _ => "string indices must be integers, not " ++ Text.quote (kindOfKey key)
    | _ => "list indices must be integers or slices, not " ++ kindOfKey key
  | unhashable key => "unhashable type: " ++ Text.quote key.classId.name
  | notCallable subject => "'" ++ subject.classId.name ++ "' object is not callable"
  | unreadable text => "Forward reference must be an expression -- got " ++ Text.quote text
  | emptyText => "string index out of range"
  | nullCharacter => "source code string cannot contain null bytes"
  | badIndex => "index out of range"
  | keyMissing key => describe key
  | noAttribute name => name

end ResolveError

/-- What resolving needs to know of the place an annotation is written in. -/
structure Scope where
  /-- The meaning of each name. -/
  meaning : String → Option Value
  /-- How many type variables a generated class has. -/
  variableCount : ClassId → Option Nat
  /-- The item of a value that is no type. -/
  item? : Value → Value → Option (Except ResolveError Value)
  /-- An attribute of a value. -/
  attribute? : Value → String → Option Value
  /-- The items of a list. -/
  items? : Value → Option (List Value)

/-- The types that stand between one pair of brackets. -/
def members : Value → List Value
  | .tuple items _ => items
  | type => [type]

/-- Quoted text becomes an annotation of its own; it must at least be readable. -/
def forwarded (text : String) : Except ResolveError Value :=
  if text = "" then .error .emptyText
  else if text.toList.contains '\x00' then .error .nullCharacter
  else if (Form.read? text).isSome then .ok (.forward text)
  else .error (.unreadable text)

/-- A type in a place that reads absence as its class and quoted text as an annotation. -/
def converted : Value → Except ResolveError Value
  | .absent => .ok .nothing
  | .text text _ => forwarded text
  | type => .ok type

/-- Convert types in turn. -/
def convertAll : List Value → Except ResolveError (List Value)
  | [] => .ok []
  | type :: rest => do
    let first ← converted type
    return first :: (← convertAll rest)

/-- Is a value acceptable where a single type must stand? -/
def checkType (allowClassVar : Bool) (place : String) (given : Value) :
    Except ResolveError Value := do
  match ← converted given with
  | .classVar inner =>
    if allowClassVar then return .classVar inner else throw (.notAnArgument (.classVar inner))
  | .annotated (.special name) notes =>
    if !allowClassVar && name = "ClassVar" then
      throw (.notAnArgument (.annotated (.special name) notes))
    else return .annotated (.special name) notes
  | .special name =>
    if name = "Self" || name = "Callable" || (allowClassVar && name = "ClassVar") then
      return .special name
    else throw (.plainForm (.special name))
  | .tuple items mark => throw (.notAType place (.tuple items mark))
  | type => return type

/-- How many types a class takes in brackets, for the classes that check the number. -/
def variableCount? (scope : Scope) (id : ClassId) : Option Nat :=
  match id.arity? with
  | some count => some count
  | none => scope.variableCount id

/-- Does a value know the module it comes from? -/
def hasHome : Value → Bool
  | .ellipsis => false
  | .bool _ => false
  | .int _ _ => false
  | .float _ _ => false
  | .module _ => false
  | .object id _ => !id.isStandard || id = ClassId.function
  | _ => true

mutual

/-- A type with its variables filled. -/
def fill (meaning : List (String × Value)) : Value → Value
  | .typeVariable name => (meaning.lookup name).getD (.typeVariable name)
  | .applied origin arguments mark => .applied origin (fillAll meaning arguments) mark
  | .optional inner => (fill meaning inner).orNothing
  | .classVar inner => .classVar (fill meaning inner)
  | .annotated inner notes => (fill meaning inner).withNotes notes
  | type => type

def fillAll (meaning : List (String × Value)) : List Value → List Value
  | [] => []
  | type :: rest => fill meaning type :: fillAll meaning rest

end

/-- Check types that fill variables. -/
def checkFillings : List Value → Except ResolveError (List Value)
  | [] => .ok []
  | type :: rest => do
    let first ← checkType false "Parameters to generic types must be types." type
    return first :: (← checkFillings rest)

/-- Fill the variables of a type. -/
def filled (type : Value) (given : List Value) : Except ResolveError Value := do
  let names := type.collectVariables []
  if names.isEmpty then throw (.notGeneric type)
  let given ← match type with
    | .applied origin _ _ => if origin.isBuiltinGeneric then pure given else convertAll given
    | _ => convertAll given
  if given.length ≠ names.length then
    throw (.arity type given.length names.length false)
  return fill (names.zip (← checkFillings given)) type

/-- A class with arguments in brackets. -/
def applyClass (scope : Scope) (id : ClassId) (given : Value) : Except ResolveError Value := do
  if id.isBuiltinGeneric then return .applied id (members given) 0
  else if id = ClassId.annotated then
    match members given with
    | first :: note :: notes =>
      let inner ← checkType true "Annotated[t, ...]: t must be a type." first
      if hasHome inner then return inner.withNotes (note :: notes)
      else throw (.noAttribute "__module__")
    | _ => throw .notesMissing
  else
    match variableCount? scope id with
    | some expected =>
      let arguments ← convertAll (members given)
      if arguments.length = expected then return .applied id arguments 0
      else throw (.arity (.cls id) arguments.length expected true)
    | none => throw (.takesNone (.cls id))

/-- The type of functions that take some types, or anything at all, and give another. -/
def applyCallable (scope : Scope) (given : Value) : Except ResolveError Value :=
  match given with
  | .tuple [taken, result] _ => do
    let result ← checkType false "Callable[args, result]: result must be a type." result
    let taken ← match scope.items? taken with
      | some types => convertAll types
      | none => convertAll (members taken)
    return .applied ClassId.callable (taken ++ [result]) 0
  | _ => .error .callableForm

/-- A value with something in brackets behind it. -/
def subscript (scope : Scope) (head given : Value) : Except ResolveError Value :=
  match head with
  | .cls id => applyClass scope id given
  | .special name =>
    if name = "Optional" then
      (checkType false "typing.Optional requires a single type." given).map Value.orNothing
    else if name = "ClassVar" then
      (checkType false "typing.ClassVar accepts only single type." given).map .classVar
    else if name = "Callable" then applyCallable scope given
    else .error (.takesNone head)
  | .applied _ _ _ => filled head (members given)
  | .optional _ => filled head (members given)
  | .classVar _ => filled head (members given)
  | .annotated _ _ => filled head (members given)
  | head => (scope.item? head given).getD (.error (.takesNone head))

mutual

/-- The meaning of the names and brackets of a form; quoted text is left to be resolved. -/
def evaluate (scope : Scope) : Form → Except ResolveError Value
  | .name id => match scope.meaning id with
    | some value => .ok value
    | none => .error (.undefined id)
  | .number value => .ok (.ofInt value)
  | .fraction value => .ok (.float value 0)
  | .text value _ => .ok (.ofText value)
  | .truth value => .ok (.bool value)
  | .absent => .ok .absent
  | .ellipsis => .ok .ellipsis
  | .tuple items => do return .tuple (← evaluateAll scope items) 0
  | .member head part => do
    match scope.attribute? (← evaluate scope head) part with
    | some value => return value
    | none => throw (.noAttribute part)
  | .call head arguments => do
    let function ← evaluate scope head
    let given ← evaluateAll scope arguments
    if function.isClass ClassId.pattern then return .pattern given 0
    else throw (.notCallable function)
  | .subscript head index => do
    let value ← evaluate scope head
    subscript scope value (← evaluate scope index)

def evaluateAll (scope : Scope) : List Form → Except ResolveError (List Value)
  | [] => .ok []
  | form :: rest => do
    let value ← evaluate scope form
    return value :: (← evaluateAll scope rest)

end

/-- Quoted text among the arguments of a class that is always there is read as an annotation. -/
def forwardAll : List Value → Except ResolveError (List Value)
  | [] => .ok []
  | .text text _ :: rest => do
    let first ← forwarded text
    return first :: (← forwardAll rest)
  | type :: rest => do return type :: (← forwardAll rest)

mutual

/-- Resolve the quoted text left in a type, to a depth of at most `bound`.  A text that is met again
while it is being resolved is left as it is.  Directly under notes a text may stand for the form
that marks class variables, which `allowClassVar` says. -/
def settle (scope : Scope) (opened : List String) (allowClassVar : Bool) :
    Nat → Value → Except ResolveError Value
  | 0, type => .ok type
  | bound + 1, .forward text =>
    if opened.contains text then .ok (.forward text)
    else
      match Form.read? text with
      | none => .error (.unreadable text)
      | some form => do
        settle scope (text :: opened) allowClassVar bound
          (← checkType allowClassVar "Forward references must evaluate to types."
            (← evaluate scope form))
  | bound + 1, .applied origin arguments mark => do
    let arguments ← if origin.isBuiltinGeneric then forwardAll arguments else pure arguments
    return .applied origin (← settleAll scope opened bound arguments) mark
  | bound + 1, .optional inner => do return (← settle scope opened false bound inner).orNothing
  | bound + 1, .classVar inner => do return .classVar (← settle scope opened false bound inner)
  | bound + 1, .annotated inner notes => do
    let inner ← settle scope opened true bound inner
    if hasHome inner then return inner.withNotes notes else throw (.noAttribute "__module__")
  | _, type => .ok type

def settleAll (scope : Scope) (opened : List String) :
    Nat → List Value → Except ResolveError (List Value)
  | _, [] => .ok []
  | 0, types => .ok types
  | bound + 1, type :: rest => do
    let first ← settle scope opened false bound type
    return first :: (← settleAll scope opened bound rest)

end

/-- How deep the types of one annotation may nest. -/
def depthBound (text : String) : Nat := 2 * text.length + 1000

/-- The meaning of a written annotation. -/
def resolve (scope : Scope) (text : String) : Except ResolveError Value := do
  settle scope [] false (depthBound text) (← forwarded text)

/-- The meaning of an annotation that is a value already. -/
def resolveValue (scope : Scope) (value : Value) : Except ResolveError Value :=
  match value with
  | .absent => .ok .nothing
  | .text text _ => resolve scope text
  | value => settle scope [] false (depthBound "") value

end Deferred.Hint
