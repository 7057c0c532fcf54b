import Deferred.Host.Basic
import Deferred.Text.Identifier
import Deferred.Text.Words

/-!
# Options of a decoration

The keywords of a decoration form a closed set.  Each declared keyword is checked first, in the
order of declaration, then keywords that are not declared are refused in the order they were given.
The names left open are derived from the method name last, so that renaming the method renames the
record and the extension too.
-/

namespace Deferred

open Deferred.Text

namespace Value

/-- Can a value be called? -/
def isCallable : Value → Bool
  | cls _ => true
  | special _ => true
  | applied _ _ _ => true
  | optional _ => true
  | classVar _ => true
  | annotated _ _ => true
  | builtin _ => true
  | hostMethod _ _ => true
  | bound _ _ _ => true
  | object id _ => id = ClassId.function || id = ClassId.partialCall
  | _ => false

end Value

/-- What is wrong with the value of a keyword. -/
inductive InvalidValue where
  | notBoolean
  | notText
  | notCallable
  | badName (name : String)
  | badPath (path : String)
  deriving DecidableEq, Repr, Inhabited

namespace InvalidValue

def message : InvalidValue → String
  | notBoolean => "Input should be a valid boolean"
  | notText => "Input should be a valid string"
  | notCallable => "Input should be callable"
  | badName name => "Value error, invalid name: `" ++ name ++ "`"
  | badPath path => "Value error, invalid path: `" ++ path ++ "`"

end InvalidValue

/-- Why the keywords of a decoration are refused. -/
inductive OptionsError where
  | unknown (key : String)
  | invalid (key : String) (reason : InvalidValue) (input : Value)
  /-- Two keywords both name the root. -/
  | twoRoots
  | sameNames (name : String)
  deriving Inhabited

namespace OptionsError

def kind : OptionsError → String
  | unknown _ => "UnknownOptionError"
  | _ => "InvalidOptionError"

def message : OptionsError → String
  | unknown key => "Unknown attribute `" ++ key ++ "`"
  | invalid key reason _ => "invalid value for `" ++ key ++ "`: " ++ reason.message
  | twoRoots => "`ecs` and `bevy_ecs` are mutually exclusive"
  | sameNames name => "record and trait are both named `" ++ name ++ "`"

/-- The keyword that a diagnostic points at. -/
def key : OptionsError → String
  | unknown key => key
  | invalid key _ _ => key
  | twoRoots => "bevy_ecs"
  | sameNames _ => "trait_name"

end OptionsError

/-- The resolved options of a generation. -/
structure Options where
  noExtension : Bool
  noDirect : Bool
  recordName : String
  extensionName : String
  root : Host.Root
  methodName : String
  onSuccess : Option Value
  onFailure : Option Value
  deriving Inhabited

namespace Options

/-- Is the outcome of the routine sent to a handler? -/
def routesOutcome (options : Options) : Bool :=
  options.onSuccess.isSome || options.onFailure.isSome

/-- The keywords of a decoration as they were given. -/
abbrev Raw := List (String × Value)

/-- The declared keywords, in the order in which they are checked. -/
def declaredKeys : List String :=
  ["no_trait", "no_world", "name", "struct_name", "trait_name", "ecs", "bevy_ecs", "ok", "err"]

/-- A keyword that is on or off, and off when it is not given. -/
def flag (raw : Raw) (key : String) : Except OptionsError Bool :=
  match raw.lookup key with
  | none => .ok false
  | some (.bool value) => .ok value
  | some value => .error (.invalid key .notBoolean value)

/-- Is a text a name that generated code may declare? -/
def isFreeName (text : String) : Bool :=
  isName text && !isReserved text

/-- A keyword that holds a name or nothing. -/
def name? (raw : Raw) (key : String) : Except OptionsError (Option String) :=
  match raw.lookup key with
  | none => .ok none
  | some .absent => .ok none
  | some (.text name mark) =>
    if isFreeName name then .ok (some name)
    else .error (.invalid key (.badName name) (.text name mark))
  | some value => .error (.invalid key .notText value)

/-- The parts of a text between its dots. -/
def dottedParts (text : String) : List String :=
  (splitAt text.toList).map String.ofList
where
  splitAt : List Char → List (List Char)
    | [] => [[]]
    | c :: rest =>
      if c = '.' then [] :: splitAt rest
      else match splitAt rest with
        | [] => [[c]]
        | part :: parts => (c :: part) :: parts

/-- A keyword that holds the path of a root, a root at hand, or nothing. -/
def root? (raw : Raw) (key : String) : Except OptionsError (Option Host.Root) :=
  match raw.lookup key with
  | none => .ok none
  | some .absent => .ok none
  | some (.text written mark) =>
    if (dottedParts written).all isName then .ok (some (.path written))
    else .error (.invalid key (.badPath written) (.text written mark))
  | some (.module found) => .ok (some (.module found))
  | some value => .error (.invalid key .notText value)

/-- A keyword that holds a handler or nothing. -/
def handler? (raw : Raw) (key : String) : Except OptionsError (Option Value) :=
  match raw.lookup key with
  | none => .ok none
  | some .absent => .ok none
  | some value =>
    if value.isCallable then .ok (some value) else .error (.invalid key .notCallable value)

/-- The flavour of a command as it appears in derived names. -/
def suffix (forEntity : Bool) : String :=
  if forEntity then "EntityCommand" else "Command"

/-- The record name derived from a method name. -/
def derivedRecordName (forEntity : Bool) (method : String) : String :=
  pascalCase method ++ suffix forEntity

/-- The extension name derived from a method name. -/
def derivedExtensionName (forEntity : Bool) (method : String) : String :=
  suffix forEntity ++ "s" ++ pascalCase method ++ "Ext"

/-- Check the keywords of a decoration and fill in what they leave open. -/
def resolve (raw : Raw) (routineName : String) (forEntity : Bool) :
    Except OptionsError Options := do
  let noExtension ← flag raw "no_trait"
  let noDirect ← flag raw "no_world"
  let name ← name? raw "name"
  let recordName ← name? raw "struct_name"
  let extensionName ← name? raw "trait_name"
  let named ← root? raw "ecs"
  let standalone ← flag raw "bevy_ecs"
  let onSuccess ← handler? raw "ok"
  let onFailure ← handler? raw "err"
  if let some key := (raw.map Prod.fst).find? fun key => !declaredKeys.contains key then
    throw (.unknown key)
  if named.isSome && standalone then throw .twoRoots
  let method := name.getD routineName
  let record := recordName.getD (derivedRecordName forEntity method)
  let extension := extensionName.getD (derivedExtensionName forEntity method)
  if record = extension && !noExtension then throw (.sameNames record)
  return {
    noExtension, noDirect, onSuccess, onFailure
    recordName := record
    extensionName := extension
    root := named.getD (.path (if standalone then Host.standaloneRoot else Host.defaultRoot))
    methodName := method }

/-- The keyword that the choice of a root is blamed on. -/
def rootKey (raw : Raw) : String :=
  if (raw.map Prod.fst).contains "bevy_ecs" then "bevy_ecs" else "ecs"

end Options

end Deferred
