import Deferred.Options
import Deferred.Role.Classify

/-!
# Plans

A plan is everything that the code of one command depends on: the signature, the options, the host,
the roles of the parameters and the routine that the code is to call.  The fields of the record
follow from it.
-/

namespace Deferred

/-- Why an outcome cannot be sent to handlers. -/
inductive RoutingError where
  | chainable
  | noOutcome
  deriving DecidableEq, Repr, Inhabited

namespace RoutingError

def kind : RoutingError → String
  | chainable => "ChainableRoutingError"
  | noOutcome => "MissingOutcomeError"

def message : RoutingError → String
  | chainable => "chainable commands cannot route a result"
  | noOutcome => "`ok` and `err` need a `Result[T, E]` return annotation"

end RoutingError

/-- Handlers need an outcome to handle, and a routine that returns its receiver has none. -/
def checkRouting (signature : Signature) (options : Options) : Except RoutingError Unit :=
  if !options.routesOutcome then .ok ()
  else if signature.chainable then .error .chainable
  else if signature.outcome.isNone then .error .noOutcome
  else .ok ()

/-- What the code of one command depends on. -/
structure Plan where
  signature : Signature
  options : Options
  host : Host
  classification : Classification
  mode : Mode
  forEntity : Bool
  /-- The routine that the code calls. -/
  body : Value
  deriving Inhabited

/-- A field of a record. -/
structure Field where
  name : String
  hint : Value
  default : Option Value
  keywordOnly : Bool
  deriving Inhabited

namespace Plan

/-- Is the outcome of the routine sent to handlers? -/
def isRouted (plan : Plan) : Bool := plan.options.routesOutcome

/-- The default of each name of the input: the elements of the declared default where a tuple is
taken apart, the default itself elsewhere. -/
def inputDefaults (piped : PipedInput) : List (String × Value) :=
  match piped.parameter.default with
  | none => []
  | some default =>
    if piped.isAggregate then piped.names.zip default.elements
    else piped.names.map (·, default)

/-- The fields that one parameter brings in. -/
def fieldsOf (piped : Option PipedInput) : Parameter × Role → List Field
  | (parameter, .capturedField) =>
    [{ name := parameter.name
       hint := parameter.hint.getD .any
       default := parameter.default
       keywordOnly := parameter.isKeywordOnly }]
  | (parameter, .pipedInput) =>
    match piped with
    | none => []
    | some piped =>
      piped.threaded.map fun (name, type) =>
        { name
          hint := type
          default := (inputDefaults piped).lookup name
          keywordOnly := parameter.isKeywordOnly }
  | _ => []

/-- The fields of the record, in the order of declaration. -/
def fields (plan : Plan) : List Field :=
  plan.classification.roles.flatMap (fieldsOf plan.classification.piped)

end Plan

end Deferred
