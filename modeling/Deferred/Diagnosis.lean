import Deferred.Code.Emitter
import Deferred.Fault
import Deferred.Plan.Basic

/-!
# From causes to reports

Each stage of a generation fails with a cause of its own.  Here every cause becomes the report that
the user sees: the stage, the place that is to blame and what else is known.  A few causes are no
diagnostics at all and end the generation as faults.  `describe` shows a value inside a message.
-/

namespace Deferred

/-- Why generated code cannot be turned into a command. -/
inductive AssemblyError where
  | conflict (conflict : Code.MergeConflict)
  /-- The text does not compile or does not run: the kind of exception and its words. -/
  | failed (kind words : String)
  deriving DecidableEq, Repr, Inhabited

/-- Why a generated command cannot be installed. -/
inductive InstallError where
  | attributeTaken (hostType method : String)
  | nameOfRoutine (name key : String)
  | nameTaken (module name key : String)
  deriving DecidableEq, Repr, Inhabited

namespace AssemblyError

def kind (_ : AssemblyError) : String := "AssemblyError"

def message : AssemblyError → String
  | conflict found => found.message
  | failed _ words => "generated code failed: " ++ words

end AssemblyError

namespace InstallError

def kind : InstallError → String
  | attributeTaken _ _ => "ExtensionConflictError"
  | nameOfRoutine _ _ => "NameCollisionError"
  | nameTaken _ _ _ => "NameCollisionError"

def message : InstallError → String
  | attributeTaken hostType method =>
    "`" ++ hostType ++ "` already has an attribute `" ++ method ++ "`"
  | nameOfRoutine name _ => "`" ++ name ++ "` would be rebound to the decorated routine"
  | nameTaken module name _ => "module `" ++ module ++ "` already defines `" ++ name ++ "`"

/-- The keyword that a diagnostic points at. -/
def key : InstallError → String
  | attributeTaken _ _ => "name"
  | nameOfRoutine _ key => key
  | nameTaken _ _ key => key

end InstallError

namespace Diagnosis

open Report

/-- The entry of a context that names the routine. -/
def routineNote (signature : Signature) : Value × Value := noteText "function" signature.qualname

/-- The fault of an annotation that cannot even be read, or in which a look-up fails. -/
def ofResolve (describe : Value → String) : Hint.ResolveError → Fault
  | .emptyText => .badIndex
  | .nullCharacter => .badValue (Hint.ResolveError.nullCharacter.message describe)
  | .badIndex => .badIndex
  | .keyMissing key => .keyMissing (describe key)
  | .noAttribute name => .noAttribute name
  | _ => .unreadableText

/-- What a failure to read a signature is reported as. -/
def ofSignature (describe : Value → String) (failure : Located SignatureError) : Fault :=
  let report (context : List (Value × Value)) : Fault :=
    .rejected
      { stage := "signature", kind := failure.error.kind
        message := failure.error.message describe, span := failure.span, context }
  match failure.error with
  | .badName name => .badParameterName name
  | .notARoutine _ shown => report [noteText "target" shown]
  | .unresolved qualname error =>
    if error.isDiagnosed then report [noteText "function" qualname] else ofResolve describe error
  | .invalidReturn hint => report [noteText "annotation" (describe hint)]

/-- What a failure to resolve the options is reported as. -/
def ofOptions (describe : Value → String) (spans : SourceMap) (error : OptionsError) : Fault :=
  .rejected
    { stage := "options", kind := error.kind, message := error.message
      span := some (spans.forOption error.key)
      context := noteText "option" error.key ::
        match error with
        | .invalid _ _ input => [noteText "input" (describe input)]
        | _ => [] }

/-- What a failure to load the host is reported as. -/
def ofHost (failure : Located HostError) : Fault :=
  let report (context : List (Value × Value)) : Fault :=
    .rejected
      { stage := "host", kind := failure.error.kind, message := failure.error.message
        span := failure.span, context }
  match failure.error with
  | .notImported _ .emptyPath => .emptyImport
  | .notImported _ (.relativePath _) => .misuse .relativeImport
  | .paramsNotListed => .misuse .noSequence
  | .notImported root _ => report [noteText "root" root]
  | .incomplete root missing => report [noteText "root" root, noteTexts "missing" missing]

/-- What else is known about a failed classification. -/
def classifyNotes (describe : Value → String) : ClassifyError → List (Value × Value)
  | .reservedInPattern names => [noteTexts "names" names]
  | .imbalanced names types =>
    [noteTexts "names" names, noteTexts "types" (types.map describe)]
  | .foreignMarker _ hint root =>
    [noteText "annotation" (describe hint), noteText "root" root]
  | _ => []

/-- What a failed classification is reported as. -/
def ofClassify (describe : Value → String) (signature : Signature) (failure : ClassifyFailure) :
    Fault :=
  .rejected
    { stage := "classify", kind := failure.error.kind, message := failure.error.message describe
      span := some (match failure.parameter with
        | some name => signature.spans.forParameter name
        | none => signature.spans.definition signature.name)
      context := routineNote signature ::
        (failure.parameter.map fun name => noteText "parameter" name).toList ++
          classifyNotes describe failure.error }

/-- What roles that do not go together are reported as. -/
def ofMode (signature : Signature) (error : ModeError) : Fault :=
  .rejected
    { stage := "mode", kind := error.kind, message := error.message
      span := some (signature.spans.forParameter error.parameter.name)
      context := [routineNote signature, noteText "parameter" error.parameter.name] }

/-- What an outcome that cannot be routed is reported as. -/
def ofRouting (signature : Signature) (error : RoutingError) : Fault :=
  .rejected
    { stage := "routing", kind := error.kind, message := error.message
      span := some signature.spans.forReturn
      context := [routineNote signature] }

/-- What a failure of the generated code is reported as. -/
def ofAssembly (qualname : String) (span : Span) (error : AssemblyError) : Fault :=
  .rejected
    { stage := "assemble", kind := error.kind, message := error.message, span := some span
      context := noteText "function" qualname ::
        match error with
        | .conflict found => [noteText "binding" found.binding]
        | .failed kind _ => [noteText "exception" kind] }

/-- What a command that cannot be installed is reported as. -/
def ofInstall (qualname : String) (spans : SourceMap) (error : InstallError) : Fault :=
  .rejected
    { stage := "install", kind := error.kind, message := error.message
      span := some (spans.forOption error.key)
      context := noteText "function" qualname ::
        match error with
        | .attributeTaken hostType _ => [noteText "host_type" hostType]
        | .nameOfRoutine name _ => [noteText "name" name]
        | .nameTaken _ name _ => [noteText "name" name] }

end Diagnosis

end Deferred
