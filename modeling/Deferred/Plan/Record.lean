import Deferred.Code.Printer
import Deferred.Plan.Call

/-!
# The record of a command

The record is a class with a field for each captured value.  Applying it runs the routine once with
those values; a chainable command answers with the world.
-/

namespace Deferred.Plan

open Deferred.Text

/-- Code reaches the values of a record as attributes of the receiver. -/
def insideRecord : Reach where
  world := .name "world"
  entity := .name "entity"
  value name := .member (.name "self") name

/-- Send the outcome of a call to the handlers, if there are any. -/
def routed (plan : Plan) (world call : Code.Expr) : Code.Expr :=
  if plan.isRouted then (Code.Expr.name Code.routeName).apply [world, call] else call

/-- The parameters of the method that applies a record. -/
def applyParameters (plan : Plan) : List Code.ParameterItem :=
  (if plan.forEntity then ["self", "entity", "world"] else ["self", "world"]).map .required

/-- The body of the method that applies a record. -/
def applyBody (plan : Plan) : List Code.Statement :=
  .expression (plan.routed (.name "world") (plan.bodyCall insideRecord)) ::
    if plan.signature.chainable then [.returns (.name "world")] else []

/-- The options of a field: its default, and whether it is given by name only.  A default that can
change is handed out by a function, since it cannot be a key. -/
def fieldOptions (field : Field) : List (String × Code.Expr) :=
  let default := Code.Expr.name (reserved (Field.defaultName field.name))
  (match field.default with
    | none => []
    | some value =>
      if value.classId.isUnhashable then [("default_factory", .closure [] default)]
      else [("default", default)]) ++
    if field.keywordOnly then [("kw_only", .name "True")] else []

/-- The declaration of a field. -/
def fieldStatement (field : Field) : Code.Statement :=
  let options := fieldOptions field
  .field field.name (.name (reserved ("ann_" ++ field.name)))
    (if options.isEmpty then none
    else some (.call (.name (reserved "field")) [] options))

/-- What the declaration of a field uses. -/
def fieldUses (field : Field) : List Use :=
  ("ann_" ++ field.name, field.hint) :: field.defaultUse ++
    if (fieldOptions field).isEmpty then [] else [("field", .builtin "field")]

/-- The names of the type parameters of the record. -/
def typeParameterUses : Nat → List Value → List Use
  | _, [] => []
  | index, type :: rest =>
    ("tp_" ++ toString index, type) :: typeParameterUses (index + 1) rest

/-- The bases of the record. -/
def recordBases (plan : Plan) : List Code.Expr :=
  let parameters := typeParameterUses 0 plan.signature.generics
  .name (reserved "base") ::
    if parameters.isEmpty then []
    else [.subscript (.name (reserved "Generic"))
      (parameters.map fun use => .name (reserved use.1))]

/-- The documentation of the command, as statements. -/
def docStatements (plan : Plan) : List Code.Statement :=
  match plan.signature.doc with
  | some doc => if doc = "" then [] else [.doc doc]
  | none => []

/-- The body of the record class. -/
def recordBody (plan : Plan) : List Code.Statement :=
  let declarations := plan.docStatements ++ plan.fields.map fieldStatement
  declarations ++ (if declarations.isEmpty then [] else [.blank]) ++
    [.define [] "apply" plan.applyParameters plan.applyBody]

/-- The code of the record. -/
def recordCode (plan : Plan) : List Code.Statement :=
  [.declare [.name (reserved "dataclass")] plan.options.recordName plan.recordBases
      plan.recordBody,
    .blank,
    .assign Code.recordAlias (.name plan.options.recordName)]

/-- What the code of the record uses. -/
def recordUses (plan : Plan) : List Use :=
  let parameters := typeParameterUses 0 plan.signature.generics
  ("base", plan.host.commandBase plan.forEntity) ::
    (if parameters.isEmpty then []
      else ("Generic", .ofClass ClassId.generic) :: parameters) ++
    ("dataclass", .builtin "dataclass") :: plan.fields.flatMap fieldUses ++ plan.bodyUses

/-- The record as a fragment. -/
def recordFragment (plan : Plan) : Except Code.BindingConflict (Code.Fragment Value) :=
  Code.fragmentOf "record" plan.recordCode plan.recordUses

end Deferred.Plan
