import Deferred.Code.Basic
import Deferred.Plan.Basic

/-!
# Calling the routine

The code that runs the routine once.  A routine that takes the world is called directly, with each
argument in its declared place.  Every other one is handed to the host: captured values are bound
by name beforehand, and the value of the input channel is rebuilt from its fields.
-/

namespace Deferred

/-- A thing that code uses, with the name it is bound to. -/
abbrev Use := String × Value

/-- How the code of a method reaches the world, the entity and the value of a field. -/
structure Reach where
  world : Code.Expr
  entity : Code.Expr
  value : String → Code.Expr

namespace Field

/-- The name the default of a field or parameter is bound to. -/
def defaultName (name : String) : String := "default_" ++ name

/-- The item of a parameter list that takes the value of a field. -/
def item (field : Field) : Code.ParameterItem :=
  if field.default.isSome then
    .optional field.name (Text.reserved (defaultName field.name))
  else .required field.name

/-- The default a parameter list uses for a field. -/
def defaultUse (field : Field) : List Use :=
  (field.default.map (defaultName field.name, ·)).toList

end Field

namespace Plan

/-- A parameter list with an item for each field, behind some leading parameters. -/
def parameterList (fields : List Field) (leading : List String) : List Code.ParameterItem :=
  let positional := fields.filter (!·.keywordOnly)
  let named := fields.filter (·.keywordOnly)
  leading.map .required ++ positional.map Field.item ++
    (if named.isEmpty then [] else .star :: named.map Field.item)

/-- The defaults that such a parameter list uses. -/
def parameterUses (fields : List Field) : List Use :=
  (fields.filter (!·.keywordOnly)).flatMap Field.defaultUse ++
    (fields.filter (·.keywordOnly)).flatMap Field.defaultUse

/-- Make a record from local variables named as its fields. -/
def construct (fields : List Field) : Code.Expr :=
  .call (.name Code.recordAlias) [] (fields.map fun field => (field.name, .name field.name))

/-- The expression for the element of the input with a name and a position. -/
def element (piped : PipedInput) (reach : Reach) : Nat → List String → List Code.Expr
  | _, [] => []
  | index, name :: rest =>
    (if piped.entityIndex = some index then reach.entity else reach.value name) ::
      element piped reach (index + 1) rest

/-- The value of the input channel. -/
def payload (piped : PipedInput) (reach : Reach) : Code.Expr :=
  match piped.shape with
  | .packed => reach.value (piped.names.headD "")
  | .single => (element piped reach 0 piped.names).headD (.name "None")
  | .elements => .tuple (element piped reach 0 piped.names)

/-- The name of the routine in code. -/
def bodyName : String := Text.reserved "body"

/-- The argument for a parameter of a routine that is called directly. -/
def argument (reach : Reach) : Parameter × Role → Code.Expr
  | (_, .context) => reach.world
  | (_, .entity) => reach.entity
  | (parameter, _) => reach.value parameter.name

/-- Call the routine with the world. -/
def exclusiveCall (plan : Plan) (reach : Reach) : Code.Expr :=
  let roles := plan.classification.roles
  .call (.name bodyName)
    ((roles.filter (!·.1.isKeywordOnly)).map (argument reach))
    ((roles.filter (·.1.isKeywordOnly)).map fun entry => (entry.1.name, argument reach entry))

/-- The values that are bound by name before the host runs the routine. -/
def boundKeywords (plan : Plan) (reach : Reach) : List (String × Code.Expr) :=
  (plan.classification.roles.filter (·.2.isBoundByName)).map fun entry =>
    (entry.1.name, argument reach entry)

/-- The routine with its captured values. -/
def boundRoutine (plan : Plan) (reach : Reach) : Code.Expr :=
  let keywords := plan.boundKeywords reach
  if keywords.isEmpty then .name bodyName
  else .call (.name (Text.reserved "partial")) [.name bodyName] keywords

/-- Have the host run the routine. -/
def scheduledCall (plan : Plan) (reach : Reach) : Code.Expr :=
  match plan.classification.piped with
  | none => reach.world.send "run_system_once" [plan.boundRoutine reach]
  | some piped =>
    reach.world.send "run_system_once_with" [plan.boundRoutine reach, payload piped reach]

/-- Run the routine once. -/
def bodyCall (plan : Plan) (reach : Reach) : Code.Expr :=
  match plan.mode with
  | .exclusive => plan.exclusiveCall reach
  | .scheduled => plan.scheduledCall reach

/-- What running the routine uses. -/
def bodyUses (plan : Plan) : List Use :=
  let bound := plan.mode = .scheduled && plan.classification.roles.any (·.2.isBoundByName)
  ("body", plan.body) :: if bound then [("partial", .ofClass ClassId.partialCall)] else []

end Plan

end Deferred
