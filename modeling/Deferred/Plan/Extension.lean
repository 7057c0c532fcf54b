import Deferred.Plan.Record

/-!
# The extension of the host

The extension puts a method on the types of the host that can take a command.  The method chooses
its implementation by the class of its receiver: a handle of the queue adds the record to the queue,
a direct receiver applies it at once.
-/

namespace Deferred.Plan

open Deferred.Text

/-- The parameters of the extension method and of its implementations. -/
def methodParameters (plan : Plan) : List Code.ParameterItem :=
  parameterList plan.fields ["self"]

/-- A chainable command answers with its receiver. -/
def chained (plan : Plan) : List Code.Statement :=
  if plan.signature.chainable then [.returns (.name "self")] else []

/-- The body of the method on a receiver that has no implementation. -/
def unsupportedBody (plan : Plan) : List Code.Statement :=
  plan.docStatements ++
    [.raises ((Code.Expr.name (reserved "unimplemented")).apply
      [.name "self", .text plan.options.methodName])]

/-- The body of the implementation that queues the record. -/
def queuedBody (plan : Plan) : List Code.Statement :=
  .expression ((Code.Expr.name "self").send "add" [construct plan.fields]) :: plan.chained

/-- The body of the implementation that applies the record at once. -/
def directBody (plan : Plan) : List Code.Statement :=
  (if plan.forEntity then
    [.assign Code.commandName (construct plan.fields),
      .assign Code.entityName ((Code.Expr.name "self").send "id" []),
      .expression ((Code.Expr.name "self").send "world_scope"
        [.closure [Code.worldName]
          ((Code.Expr.name Code.commandName).send "apply"
            [.name Code.entityName, .name Code.worldName])])]
  else [.expression ((construct plan.fields).send "apply" [.name "self"])]) ++ plan.chained

/-- An implementation of the method: the name of its receiver type, its own name and its body. -/
structure Implementation where
  target : String
  name : String
  body : List Code.Statement

/-- The implementations of the method, the queued one first. -/
def implementations (plan : Plan) : List Implementation :=
  ⟨reserved "queued", Code.queuedName, plan.queuedBody⟩ ::
    if plan.options.noDirect then []
    else [⟨reserved "direct", Code.directName, plan.directBody⟩]

/-- The code of one implementation. -/
def implementationCode (plan : Plan) (implementation : Implementation) : List Code.Statement :=
  [.define [(Code.Expr.name Code.methodName).send "register" [.name implementation.target]]
      implementation.name plan.methodParameters implementation.body,
    .blank]

/-- The code of the extension. -/
def extensionCode (plan : Plan) : List Code.Statement :=
  let name := plan.options.extensionName
  [.define [.name (reserved "singledispatch")] Code.methodName plan.methodParameters
      plan.unsupportedBody,
    .blank] ++
    plan.implementations.flatMap plan.implementationCode ++
    [.assign Code.implementationsName
        (.table (plan.implementations.map fun implementation =>
          (.name implementation.target, .name implementation.name))),
      .blank,
      .declare [] name [.name (reserved "ABC")] (plan.docStatements ++ [.pass]),
      .blank,
      .expression ((Code.Expr.name (reserved "setattr")).apply
        [.name name, .text plan.options.methodName, .name Code.methodName])] ++
    (plan.implementations.map fun implementation =>
      .expression ((Code.Expr.name (reserved "ABCMeta")).send "register"
        [.name name, .name implementation.target])) ++
    [.assign Code.extensionAlias (.name name)]

/-- What the code of the extension uses. -/
def extensionUses (plan : Plan) : List Use :=
  parameterUses plan.fields ++
    [("singledispatch", .builtin "singledispatch"), ("unimplemented", .builtin "unimplemented"),
      ("queued", plan.host.queuedTarget plan.forEntity)] ++
    (if plan.options.noDirect then [] else [("direct", plan.host.directTarget plan.forEntity)]) ++
    [("ABC", .ofClass ClassId.abstract), ("setattr", .builtin "setattr"),
      ("ABCMeta", .ofClass ClassId.abstractMeta)]

/-- The extension as a fragment, unless it is left out. -/
def extensionFragment (plan : Plan) :
    Except Code.BindingConflict (Option (Code.Fragment Value)) :=
  if plan.options.noExtension then .ok none
  else (Code.fragmentOf "trait" plan.extensionCode plan.extensionUses).map some

end Deferred.Plan
