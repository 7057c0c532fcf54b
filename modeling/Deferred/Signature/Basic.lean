import Deferred.Hint.Resolve
import Deferred.Signature.Source
import Deferred.Text.Docstring

/-!
# Signatures

A signature is what the later stages know of a routine: its parameters with resolved annotations,
the type variables it mentions, what it returns and where its tokens stand.  Reading a signature
resolves all annotations and sorts the return annotation into its three legal forms: nothing, the
receiver, or an outcome with two types.
-/

namespace Deferred

/-- A parameter with its annotation resolved and stripped of notes. -/
structure Parameter where
  name : String
  hint : Option Value
  kind : ParameterKind
  default : Option Value
  /-- The names of the first destructuring pattern among the notes. -/
  pattern : Option (List Value)
  deriving Inhabited

namespace Parameter

def isKeywordOnly (parameter : Parameter) : Bool := parameter.kind = .keywordOnly

def isPositionalOnly (parameter : Parameter) : Bool := parameter.kind = .positionalOnly

end Parameter

/-- The parsed description of a routine. -/
structure Signature where
  name : String
  qualname : String
  home : String
  parameters : List Parameter
  spans : SourceMap
  generics : List Value
  /-- Does the routine return its receiver? -/
  chainable : Bool
  /-- The types of a successful and of a failed outcome. -/
  outcome : Option (Value × Value)
  doc : Option String
  deriving Inhabited

/-- Why a signature cannot be read. -/
inductive SignatureError where
  /-- The target is no plain routine. -/
  | notARoutine (kind shown : String)
  | unresolved (qualname : String) (error : Hint.ResolveError)
  | invalidReturn (hint : Value)
  /-- A parameter that can be given by name has a name that no call can write. -/
  | badName (name : String)
  deriving Inhabited

namespace SignatureError

def kind : SignatureError → String
  | notARoutine _ _ => "InvalidTargetError"
  | unresolved _ _ => "UnresolvedAnnotationError"
  | invalidReturn _ => "InvalidReturnTypeError"
  | badName _ => "ValueError"

/-- What is wrong, in words; `describe` shows a value. -/
def message (describe : Value → String) : SignatureError → String
  | notARoutine kind _ => "commands must be plain functions, got a " ++ kind
  | unresolved _ error => "cannot resolve annotations: " ++ error.message describe
  | invalidReturn _ =>
    "command may not define a return type, except for `Self` or `Result[T, E]`"
  | badName name => Text.quote name ++ " is not a valid parameter name"

end SignatureError

/-- Something a decoration is put on. -/
inductive Target where
  | routine (routine : Routine)
  /-- Anything else, by its kind and how it is shown. -/
  | other (kind shown : String)
  deriving Inhabited

namespace Target

/-- The places of the tokens of a target. -/
def locate : Target → SourceMap
  | .routine definition => definition.locate
  | .other _ _ => { file := "<unknown>", line := 0 }

end Target

namespace Signature

/-- What resolving an annotation of a routine needs to know; `around` knows the values that are no
types. -/
def scopeOf (around : Hint.Scope) (routine : Routine) : Hint.Scope :=
  { around with meaning := fun name =>
      match routine.names.lookup name with
      | some value => some value
      | none => around.meaning name }

/-- Resolve annotations in turn. -/
def resolveAll (scope : Hint.Scope) : List (String × Value) →
    Except Hint.ResolveError (List (String × Value))
  | [] => .ok []
  | (name, given) :: rest => do
    let type ← Hint.resolveValue scope given
    return (name, type) :: (← resolveAll scope rest)

/-- The resolved annotations of a routine, notes included. -/
def hints (around : Hint.Scope) (routine : Routine) :
    Except Hint.ResolveError (List (String × Value)) :=
  resolveAll (scopeOf around routine) routine.annotations

/-- The names of the first pattern among some notes. -/
def firstPattern : List Value → Option (List Value)
  | [] => none
  | .pattern names _ :: _ => some names
  | _ :: rest => firstPattern rest

/-- A parameter with its resolved annotation. -/
def parameterOf (hints : List (String × Value)) (declared : CallParameter) : Parameter :=
  let resolved := hints.lookup declared.name
  { name := declared.name
    hint := resolved.map Value.stripNotes
    kind := declared.kind
    default := declared.default
    pattern := match resolved with
      | some (.annotated _ notes) => firstPattern notes
      | _ => none }

/-- The type variables in the annotations of some parameters, in order of first occurrence. -/
def mentioned (parameters : List Parameter) : List String :=
  parameters.foldl
    (fun found parameter => match parameter.hint with
      | some type => type.collectMentioned found
      | none => found) []

/-- Sort a return annotation: is it the receiver, and which outcome does it have? -/
def returned? : Option Value → Option (Bool × Option (Value × Value))
  | none => some (false, none)
  | some .absent => some (false, none)
  | some (.special name) => if name = "Self" then some (true, none) else none
  | some (.applied id [value, error] _) =>
    if id = ClassId.outcome then some (false, some (value, error)) else none
  | some type => if type.isClass ClassId.none then some (false, none) else none

/-- The signature of a routine, given its resolved annotations. -/
def ofHints (routine : Routine) (spans : SourceMap) (hints : List (String × Value)) :
    Except (Located SignatureError) Signature :=
  let parameters := routine.parameters.map (parameterOf hints)
  let generics :=
    if routine.typeParameters.isEmpty then (mentioned parameters).map .typeVariable
    else routine.typeParameters
  let returns := hints.lookup "return"
  match returned? returns with
  | none => .error ⟨.invalidReturn (returns.getD .nothing), some spans.forReturn⟩
  | some (chainable, outcome) => .ok
    { name := routine.name
      qualname := routine.qualname
      home := routine.home
      parameters, spans, generics, chainable, outcome
      doc := routine.doc.map Text.cleanDoc }

/-- The first parameter whose name no call can write, although it can be given by name. -/
def unwritable? (parameters : List CallParameter) : Option String :=
  (parameters.find? fun parameter =>
    parameter.kind ≠ .positionalOnly && Text.isKeyword parameter.name).map CallParameter.name

/-- Read the signature of a routine. -/
def ofRoutine (around : Hint.Scope) (routine : Routine) :
    Except (Located SignatureError) Signature :=
  let spans := routine.locate
  if routine.isSuspended then
    .error
      ⟨.notARoutine "coroutine function" ("<function " ++ routine.qualname ++ " at 0x0>"), none⟩
  else
    match hints around routine with
    | .error error =>
      .error ⟨.unresolved routine.qualname error, some (spans.definition routine.name)⟩
    | .ok hints =>
      match unwritable? routine.parameters with
      | some name => .error ⟨.badName name, none⟩
      | none => ofHints routine spans hints

/-- Read the signature of a target. -/
def ofTarget (around : Hint.Scope) : Target → Except (Located SignatureError) Signature
  | .routine routine => ofRoutine around routine
  | .other kind shown => .error ⟨.notARoutine kind shown, none⟩

end Signature

end Deferred
