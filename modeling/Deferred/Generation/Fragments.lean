import Deferred.Plan.Build
import Deferred.Plan.Extension
import Deferred.Plan.Routing

/-!
# The text of a command

What is generated for a command: the code of its fragments, joined in order, their text, and
everything that they use.
-/

namespace Deferred.Plan

/-- The fragments of a command: the record, the routing of its outcome and the extension. -/
structure Fragments where
  record : Code.Fragment Value
  routing : Option (Code.Fragment Value)
  extension : Option (Code.Fragment Value)
  deriving Inhabited

namespace Fragments

/-- The fragments in the order in which they are joined. -/
def toList (fragments : Fragments) : List (Code.Fragment Value) :=
  fragments.record :: fragments.routing.toList ++ fragments.extension.toList

/-- The whole text. -/
def source (fragments : Fragments) : String :=
  Code.Fragment.join fragments.toList

end Fragments

/-- Generate the fragments of a command. -/
def fragments (plan : Plan) : Except Code.BindingConflict Fragments := do
  let record ← plan.recordFragment
  let routing ← plan.routingFragment
  let extension ← plan.extensionFragment
  return { record, routing, extension }

/-- The code of a command: what its fragments are written from. -/
def code (plan : Plan) : List Code.Statement :=
  plan.recordCode ++ (if plan.isRouted then plan.routingCode else []) ++
    if plan.options.noExtension then [] else plan.extensionCode

/-- The name under which the text of a command is kept. -/
def sourceName (plan : Plan) : String :=
  "<commandify " ++ plan.signature.home ++ "." ++ plan.signature.qualname ++ ">"

end Deferred.Plan
