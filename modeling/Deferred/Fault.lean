import Deferred.Class.Standard
import Deferred.Report
import Deferred.Text.Quoted

/-!
# Faults

What can go wrong while a scenario runs.  A fault is named for its cause; the kind of exception it
is reported as and its words follow from the cause.  A kind without words leaves them out.
-/

namespace Deferred

/-- Why an operation is not supported by the values it is given. -/
inductive Misuse where
  | arguments
  | operands
  | notCallable
  | notIterable
  | notIndexable
  | unhashable
  | noLength
  | abstractClass
  | notAClass
  | notAModule
  | immutableType
  | noSequence
  | noReceiver
  | relativeImport
  | notSerialisable
  deriving DecidableEq, Repr, Inhabited

/-- Why a run was cut short. -/
inductive Fault where
  | entityNotFound (shown : String)
  | resourceMissing (name : String)
  | componentMissing (shown name : String)
  | notSingle (name : String) (found : Nat)
  /-- The annotations of a routine that the host is to run have no meaning. -/
  | unresolvedSystem (shown reason : String)
  | inputMissing (parameter : String)
  | notInjectable (parameter owner : String)
  /-- The host was asked to run a routine with an input and got none. -/
  | inputRequired
  | notACommand (className : String)
  | notGenerated (shown : String)
  | misuse (reason : Misuse)
  /-- Values of kinds that do not go together, in words. -/
  | mismatch (words : String)
  | noAttribute (name : String)
  /-- An attribute of an object that never changes was set. -/
  | frozen (name : String)
  /-- An attribute of an object that never changes was to be removed. -/
  | kept (name : String)
  /-- An outcome was to be changed. -/
  | immutableOutcome
  | undefinedName (name : String)
  | badIndex
  | unreadableText
  /-- Code that does not compile, in words. -/
  | badCode (words : String)
  /-- A value that does not fit where it stands, in words. -/
  | badValue (words : String)
  /-- A parameter whose name no call can write. -/
  | badParameterName (name : String)
  | tooLarge
  | keyMissing (shown : String)
  | notImplemented (className method : String)
  /-- The wrong side of an outcome was asked for. -/
  | wrongOutcome
  | noSignature (shown : String)
  /-- A partial call binds names that the routine does not take. -/
  | badPartial (shown : String)
  | bindingConflict (message : String)
  | emptyImport
  | script (text : String)
  /-- An exception of its own, by its kind and its words. -/
  | foreign (kind message : String)
  /-- A module was not found. -/
  | importFailed (message : String)
  | rejected (report : Report)
  /-- The bound on the length of a run was reached. -/
  | outOfFuel
  deriving Inhabited

namespace Fault

/-- The fault of a whole number that has too many digits to be written or read; `found` says how many
they are. -/
def tooManyDigits (found : String) : Fault :=
  .badValue ("Exceeds the limit (4300 digits) for integer string conversion" ++ found ++
    "; use sys.set_int_max_str_digits() to increase the limit")

/-- The kind of exception a fault is reported as. -/
def kind : Fault → String
  | entityNotFound _ => "EntityNotFoundError"
  | resourceMissing _ => "MissingResourceError"
  | componentMissing _ _ => "QueryEntityError"
  | notSingle _ _ => "QueryEntityError"
  | unresolvedSystem _ _ => "SystemParamError"
  | inputMissing _ => "SystemParamError"
  | notInjectable _ _ => "SystemParamError"
  | inputRequired => "ValueError"
  | notACommand _ => "TypeError"
  | notGenerated _ => "TypeError"
  | misuse _ => "TypeError"
  | mismatch _ => "TypeError"
  | noAttribute _ => "AttributeError"
  | frozen _ => "FrozenInstanceError"
  | kept _ => "FrozenInstanceError"
  | immutableOutcome => "ImmutableStateError"
  | undefinedName _ => "NameError"
  | badIndex => "IndexError"
  | unreadableText => "SyntaxError"
  | badCode _ => "SyntaxError"
  | badValue _ => "ValueError"
  | badParameterName _ => "ValueError"
  | tooLarge => "OverflowError"
  | keyMissing _ => "KeyError"
  | notImplemented _ _ => "NotImplementedError"
  | wrongOutcome => "UnwrapFailedError"
  | noSignature _ => "ValueError"
  | badPartial _ => "ValueError"
  | bindingConflict _ => "ValueError"
  | emptyImport => "ValueError"
  | script _ => "ScriptError"
  | foreign kind _ => kind
  | importFailed _ => "ModuleNotFoundError"
  | rejected report => report.kind
  | outOfFuel => "RecursionError"

/-- The kinds of exception that are reported without words. -/
def silentKinds : List String := ["TypeError", "AttributeError", "IndexError", "SyntaxError"]

/-- The kinds of exception that take more than a text to be made. -/
def demandingKinds : List String :=
  ["UnicodeDecodeError", "UnicodeEncodeError", "UnicodeTranslateError", "ExceptionGroup",
    "BaseExceptionGroup"]

/-- The fault of a module that raises what goes by a name, made of a text. -/
def raised (name text : String) : Fault :=
  match Standard.className? name with
  | none => if Standard.functions.contains name then misuse .arguments else noAttribute name
  | some kind =>
    if (Standard.exceptions.lookup kind).isNone || demandingKinds.contains kind then
      misuse .arguments
    else if kind = "KeyError" then keyMissing (Text.quote text)
    else foreign kind text

/-- The words of a fault, for the kinds that have any. -/
def message? : Fault → Option String
  | entityNotFound shown => some shown
  | resourceMissing name => some (Text.quote ("resource " ++ name ++ " does not exist"))
  | componentMissing shown name => some (shown ++ " has no component " ++ name)
  | notSingle name found =>
    some ("expected exactly one " ++ name ++ ", found " ++ toString found)
  | unresolvedSystem shown reason =>
    some ("cannot resolve annotations of " ++ shown ++ ": " ++ reason)
  | inputMissing parameter =>
    some ("parameter '" ++ parameter ++ "' expects an input value; use run_system_once_with")
  | notInjectable parameter owner =>
    some ("cannot inject parameter '" ++ parameter ++ "' of " ++ owner)
  | inputRequired => some "run_system_once_with requires an input value"
  | notACommand className =>
    some ("Commands.add expects a Command or callable, got " ++ className)
  | notGenerated shown => some (shown ++ " was not generated by commandify")
  | keyMissing shown => some shown
  | frozen name => some ("cannot assign to field " ++ Text.quote name)
  | kept name => some ("cannot delete field " ++ Text.quote name)
  | undefinedName name => some ("name " ++ Text.quote name ++ " is not defined")
  | notImplemented className method =>
    some (className ++ " does not implement `" ++ method ++ "`")
  | wrongOutcome => some ""
  | immutableOutcome => some ""
  | badValue words => some words
  | badParameterName name => some (Text.quote name ++ " is not a valid parameter name")
  | tooLarge => some "int too large to convert to float"
  | noSignature shown => some ("no signature found for builtin " ++ shown)
  | badPartial shown => some ("partial object " ++ shown ++ " has incorrect arguments")
  | bindingConflict message => some message
  | emptyImport => some "Empty module name"
  | script text => some text
  | foreign kind message => if silentKinds.contains kind then none else some message
  | importFailed message => some message
  | rejected report => some report.text
  | outOfFuel => some "maximum recursion depth exceeded"
  | _ => none

/-- What a fault of generated code says inside the diagnostic that reports it.  Only the faults that
such a diagnostic reports have an answer. -/
def generatedWords? : Fault → Option String
  | mismatch words => some words
  | badCode words => some words
  | badValue words => some words
  | misuse _ => some "the values do not go together"
  | undefinedName name => some ("name " ++ Text.quote name ++ " is not defined")
  | _ => none

end Fault

end Deferred
