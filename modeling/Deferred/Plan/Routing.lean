import Deferred.Plan.Record

/-!
# Routing the outcome

A routed command never answers with its outcome.  A success is handed to one handler, a failure to
another, each run once by the host, and a branch without a handler is dropped.  The public routine
keeps the declared signature where the routine is called directly; where the host runs it, the
public routine takes the world, the entity and the fields of the record.
-/

namespace Deferred.Plan

open Deferred.Text

/-- Hand the content of an outcome to a handler, through the host. -/
def handle (handler content : String) : List Code.Statement :=
  [.expression ((Code.Expr.name "world").send "run_system_once_with"
    [.name (reserved handler), (Code.Expr.name "outcome").send content []])]

/-- Is the outcome of a class? -/
def isOutcome (name : String) : Code.Expr :=
  (Code.Expr.name "isinstance").apply [.name "outcome", .name (reserved name)]

/-- The body of the function that hands an outcome on. -/
def routeBody (plan : Plan) : List Code.Statement :=
  [.choose
    ((if plan.options.onSuccess.isSome then [(isOutcome "Success", handle "ok" "unwrap")]
      else []) ++
      if plan.options.onFailure.isSome then [(isOutcome "Failure", handle "err" "failure")]
      else [])]

/-- What that function uses. -/
def routeUses (plan : Plan) : List Use :=
  (match plan.options.onSuccess with
    | some handler => [("Success", .ofClass ClassId.success), ("ok", handler)]
    | none => []) ++
    match plan.options.onFailure with
    | some handler => [("Failure", .ofClass ClassId.failure), ("err", handler)]
    | none => []

/-- A declared parameter as an item of a parameter list. -/
def declaredItem (parameter : Parameter) : Code.ParameterItem :=
  if parameter.default.isSome then
    .optional parameter.name (reserved (Field.defaultName parameter.name))
  else .required parameter.name

/-- A declared parameter list with its marks; `starred` tells that the mark before the parameters
given by name was written. -/
def declaredItems : Bool → List Parameter → List Code.ParameterItem
  | _, [] => []
  | starred, parameter :: rest =>
    let opens := parameter.isKeywordOnly && !starred
    let closes := parameter.isPositionalOnly && !(rest.head?.any Parameter.isPositionalOnly)
    (if opens then [.star] else []) ++ declaredItem parameter ::
      (if closes then [.slash] else []) ++ declaredItems (starred || opens) rest

/-- The defaults that a declared parameter list uses. -/
def declaredUses (parameters : List Parameter) : List Use :=
  parameters.filterMap fun parameter =>
    parameter.default.map (Field.defaultName parameter.name, ·)

/-- Code of the public routine reaches values as its own parameters. -/
def insideRoutine (world entity : String) : Reach where
  world := .name world
  entity := .name entity
  value name := .name name

/-- The parameters of the public routine. -/
def routineParameters (plan : Plan) : List Code.ParameterItem :=
  match plan.mode with
  | .exclusive => declaredItems false plan.signature.parameters
  | .scheduled =>
    parameterList plan.fields
      (if plan.forEntity then [Code.worldName, Code.entityName] else [Code.worldName])

/-- The body of the public routine. -/
def routineBody (plan : Plan) : List Code.Statement :=
  match plan.mode with
  | .exclusive =>
    let world := (plan.classification.context.map Parameter.name).getD ""
    let entity := (plan.classification.entity.map Parameter.name).getD ""
    [.expression ((Code.Expr.name Code.routeName).apply
      [.name world, plan.bodyCall (insideRoutine world entity)])]
  | .scheduled =>
    [.expression ((construct plan.fields).send "apply"
      ((if plan.forEntity then [Code.entityName, Code.worldName] else [Code.worldName]).map
        .name))]

/-- The code of the routing. -/
def routingCode (plan : Plan) : List Code.Statement :=
  [.define [] Code.routeName [.required "world", .required "outcome"] plan.routeBody,
    .blank,
    .define [] Code.routineName plan.routineParameters plan.routineBody]

/-- What the code of the routing uses. -/
def routingUses (plan : Plan) : List Use :=
  plan.routeUses ++
    match plan.mode with
    | .exclusive => declaredUses plan.signature.parameters ++ plan.bodyUses
    | .scheduled => parameterUses plan.fields

/-- The routing as a fragment, if the outcome is routed. -/
def routingFragment (plan : Plan) :
    Except Code.BindingConflict (Option (Code.Fragment Value)) :=
  if plan.isRouted then (Code.fragmentOf "routing" plan.routingCode plan.routingUses).map some
  else .ok none

end Deferred.Plan
