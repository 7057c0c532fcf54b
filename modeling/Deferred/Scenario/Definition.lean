import Deferred.Generation.Install
import Deferred.Scenario.Module

/-!
# Definitions

A definition describes a routine, or something that is none, and how it is decorated.  Building it
makes the routine with the meaning that names have at that moment; decorating it generates and
installs a command, and only then is the name of the definition bound to the public routine.
-/

namespace Deferred.Scenario

open Deferred.Action

/-- What is defined. -/
inductive DefinitionKind where
  | routine (form : RoutineForm)
  | builtin
  | classOfModule
  | value (value : Datum)
  deriving Inhabited

/-- A parameter of a definition. -/
structure ParameterText where
  name : String
  kind : ParameterKind
  hint : Option String
  default : Option Datum
  deriving Inhabited

/-- A definition. -/
structure Definition where
  /-- The name that is bound. -/
  name : String
  kind : DefinitionKind
  parameters : List ParameterText
  returns : Option String
  doc : Option String
  body : Option Script
  layout : Layout
  /-- The module the routine says it belongs to, if not the one it is defined in. -/
  home : Option String
  qualname : Option String
  typeParameters : List String
  deriving Inhabited

/-- How a definition is decorated. -/
structure Decoration where
  forEntity : Bool
  options : Option (List (String × Datum))
  deriving Inhabited

/-- How deep calls may nest and how many items a loop may take. -/
def bound : Nat := 100000

/-- Make the parameters of a function, with their defaults. -/
def makeParameters (module : String) : List ParameterText → Action (List CallParameter)
  | [] => return []
  | parameter :: rest => do
    let default ← match parameter.default with
      | some datum => do done (some (← datum.make module))
      | none => done none
    return { name := Text.normalName parameter.name, kind := parameter.kind, default } ::
      (← makeParameters module rest)

/-- Parameters as they are written: each default has a name, by its place in the list. -/
def writtenParameters (parameters : List ParameterText) : List WrittenParameter :=
  parameters.zipIdx.map fun (parameter, index) =>
    { name := parameter.name, kind := parameter.kind, hint := parameter.hint
      default := parameter.default.map fun _ => "D" ++ toString index }

/-- The text of a definition. -/
def Definition.source (definition : Definition) (form : RoutineForm) : Source :=
  { name := definition.name, parameters := writtenParameters definition.parameters
    returns := definition.returns, doc := definition.doc, form, layout := definition.layout }

/-- What several names of a module stand for. -/
def globalsNamed (module : String) : List String → Action (List Value)
  | [] => return []
  | name :: rest => do
    let value ← Datum.global module name
    return value :: (← globalsNamed module rest)

/-- Make a routine as a function whose body runs in a scope. -/
def makeRoutine (module : String) (scope : Ref) (definition : Definition) (form : RoutineForm) :
    Action Value := do
  let parameters ← makeParameters module definition.parameters
  let typeParameters ← globalsNamed module definition.typeParameters
  let source := definition.source form
  let annotations ← newTable (Entries.putAll [] (source.annotations.map fun (name, written) =>
    (Text.normalName name, .ofText (Source.returnSegment written))))
  let name := if form = .anonymous then "<lambda>" else Text.normalName definition.name
  allocate ClassId.function
    (.function
      { name
        qualname := definition.qualname.getD name
        codeName := name
        codePath := name
        home := .ofText (definition.home.getD module)
        doc := (definition.doc.map Value.ofText).getD .absent
        parameters, annotations, source
        body :=
          if form = .coroutine then .suspended
          else .script (definition.body.getD (.datum .absent)) scope
        file := definition.layout.file
        line := definition.layout.line
        names := namesOf (← store) module })
    (if typeParameters.isEmpty then [] else [("__type_params__", .tuple typeParameters 0)])

/-- Build what is defined. -/
def Definition.build (module : String) (scope : Ref) (definition : Definition) : Action Value :=
  match definition.kind with
  | .routine form => makeRoutine module scope definition form
  | .builtin => return .builtin definition.name
  | .classOfModule => Datum.global module definition.name
  | .value datum => datum.make module

/-- The keywords of a decoration. -/
def makeOptions (module : String) : List (String × Datum) → Action Options.Raw
  | [] => return []
  | (key, datum) :: rest => do
    let value ← datum.make module
    return (key, value) :: (← makeOptions module rest)

/-- How the decorator is shown that is left when nothing is decorated. -/
def openDecorator (forEntity : Bool) : String :=
  "functools.partial(<function _commandify at 0x0>, raw_options=\x7b\x7d, entity_command=" ++
    (if forEntity then "True)" else "False)")

/-- Build a definition, decorate it and bind its name. -/
def Definition.define (module : String) (scope : Ref) (definition : Definition)
    (decoration : Option Decoration) : Action (Option Generation) := do
  let value ← definition.build module scope
  match decoration, value with
  | none, _ =>
    perform (.setGlobal module definition.name value)
    return none
  | some { forEntity, options := none }, .absent =>
    fail (.notGenerated (openDecorator forEntity))
  | some decoration, _ =>
    let raw ← makeOptions module (decoration.options.getD [])
    let generation ← decorate (machine bound) value raw decoration.forEntity
    perform (.setGlobal module definition.name generation.routine)
    return some generation

end Deferred.Scenario
