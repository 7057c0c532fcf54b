import Deferred.Host.Basic
import Deferred.Role.Basic

/-!
# Sorting parameters into roles

Roles are found by identity: an annotation is the host's world only when it is that very class.  A
class that merely goes by the name of a marker is reported instead of being captured.  The rules
are tried in a fixed order for each parameter, and the parameters are taken in order, so the first
parameter that breaks a rule decides the diagnostic.
-/

namespace Deferred

open Deferred.Text

/-- Why a parameter has no role. -/
inductive ClassifyError where
  | receiver
  | variadic
  | reservedParameter
  | illegalPattern (pattern : List Value)
  | repeatedInPattern (pattern : List Value)
  | reservedInPattern (names : List String)
  | clashingPattern (pattern : List Value) (name : String)
  | imbalanced (names : List String) (types : List Value)
  | severalEntities
  | inputDefault (default : Value) (expected : Nat)
  | secondInput (first : String)
  | entityTaken (holder : String)
  | capturedPattern (pattern : List Value)
  | secondContext (first : String)
  | foreignMarker (marker : String) (hint : Value) (root : String)
  | recordAttribute (name : String)
  | missingEntity
  deriving Inhabited

namespace ClassifyError

def kind : ClassifyError → String
  | receiver => "ReceiverParameterError"
  | variadic => "VariadicSignatureError"
  | reservedParameter => "ReservedNameError"
  | illegalPattern _ => "InvalidBindingError"
  | repeatedInPattern _ => "InvalidBindingError"
  | reservedInPattern _ => "ReservedNameError"
  | clashingPattern _ _ => "InvalidBindingError"
  | imbalanced _ _ => "ImbalancedInputError"
  | severalEntities => "DuplicateEntityError"
  | inputDefault _ _ => "InvalidInputDefaultError"
  | secondInput _ => "DuplicateInputError"
  | entityTaken _ => "DuplicateEntityError"
  | capturedPattern _ => "CapturedBindingError"
  | secondContext _ => "DuplicateContextError"
  | foreignMarker _ _ _ => "ForeignMarkerError"
  | recordAttribute _ => "ReservedNameError"
  | missingEntity => "MissingEntityError"

/-- What is wrong, in words; `describe` shows a value. -/
def message (describe : Value → String) : ClassifyError → String
  | receiver => "commands cannot take `self`; decorate a free function"
  | variadic => "commands cannot take `*args` or `**kwargs`"
  | reservedParameter =>
    "names starting with `" ++ reservedOpening ++ "` are reserved for generated code"
  | illegalPattern pattern =>
    describe (.pattern pattern 0) ++ " must name one or more plain identifiers"
  | repeatedInPattern pattern => describe (.pattern pattern 0) ++ " binds the same name twice"
  | reservedInPattern _ =>
    "names starting with `" ++ reservedOpening ++ "` are reserved for generated code"
  | clashingPattern pattern name =>
    describe (.pattern pattern 0) ++ " reuses parameter name `" ++ name ++ "`"
  | imbalanced _ _ => "imbalanced names and types"
  | severalEntities => "the input carries more than one `Entity`"
  | inputDefault default expected =>
    "default " ++ describe default ++ " must be a tuple of " ++ toString expected ++ " values"
  | secondInput first => "only one `In` parameter is allowed, already have `" ++ first ++ "`"
  | entityTaken name => "entity already taken by `" ++ name ++ "`"
  | capturedPattern pattern =>
    describe (.pattern pattern 0) ++ " is only allowed on an `In` parameter"
  | secondContext first => "only one `World` parameter is allowed, already have `" ++ first ++ "`"
  | foreignMarker marker _ root =>
    "`" ++ marker ++ "` does not belong to host root `" ++ root ++ "`"
  | recordAttribute name => "`" ++ name ++ "` is an attribute of the command record"
  | missingEntity => "entity commands must take an `Entity` parameter"

end ClassifyError

/-- An error of the classification and the parameter it is about, if there is one. -/
structure ClassifyFailure where
  error : ClassifyError
  parameter : Option String
  deriving Inhabited

namespace Classification

/-- Attributes of a record that no field may hide. -/
def recordAttributes : List String := ["apply", "with_entity"]

/-- A name that can be a field: a plain name other than the receiver's. -/
def isFieldName : Value → Bool
  | .text name _ => isName name && name ≠ "self"
  | _ => false

/-- The texts among some values. -/
def textsOf (names : List Value) : List String :=
  names.filterMap fun
    | .text name _ => some name
    | _ => none

/-- Is there a name that occurs twice? -/
def repeats : List String → Bool
  | [] => false
  | name :: rest => rest.contains name || repeats rest

/-- The least of some names, in the order of their characters. -/
def least? (names : List String) : Option String :=
  names.foldl
    (fun sofar name => match sofar with
      | none => some name
      | some other => if name < other then some name else some other) none

/-- No parameter may be the receiver, take any number of arguments, or use a reserved name. -/
def checkName (parameter : Parameter) : Except ClassifyError Unit :=
  if parameter.name = "self" then .error .receiver
  else if parameter.kind.isVariadic then .error .variadic
  else if isReserved parameter.name then .error .reservedParameter
  else .ok ()

/-- The names that the input binds: those of its pattern, or the parameter's own. -/
def inputNames (signature : Signature) (parameter : Parameter) :
    Except ClassifyError (List String) :=
  match parameter.pattern with
  | none => .ok [parameter.name]
  | some pattern =>
    let names := textsOf pattern
    let others := (signature.parameters.map Parameter.name).erase parameter.name
    if pattern.isEmpty || !pattern.all isFieldName then .error (.illegalPattern pattern)
    else if repeats names then .error (.repeatedInPattern pattern)
    else if names.any isReserved then .error (.reservedInPattern (names.filter isReserved))
    else match least? (names.filter others.contains) with
      | some name => .error (.clashingPattern pattern name)
      | none => .ok names

/-- The types that an input carries, and whether they are the elements of one tuple. -/
def carriedTypes (hint : Option Value) : List Value × Bool :=
  let inner := match hint.map Value.arguments with
    | some (first :: _) => first
    | _ => .any
  match inner with
  | .applied id elements _ =>
    if id = ClassId.tuple && !elements.isEmpty && !elements.contains .ellipsis then (elements, true)
    else ([inner], false)
  | _ => ([inner], false)

/-- The shape of an input with this many names and types. -/
def shapeOf (isTuple : Bool) (names types : Nat) : InputShape :=
  if !isTuple then .single else if names = 1 && 1 < types then .packed else .elements

/-- The positions of the items that satisfy a test, counted from `start`. -/
def positions {α : Type} (test : α → Bool) : Nat → List α → List Nat
  | _, [] => []
  | start, item :: rest =>
    if test item then start :: positions test (start + 1) rest else positions test (start + 1) rest

/-- Is a default a tuple with this many elements? -/
def isTupleOf (count : Nat) : Value → Bool
  | .tuple items _ => items.length = count
  | _ => false

/-- Read the input parameter: its names, its types and how they belong together. -/
def parseInput (signature : Signature) (host : Host) (forEntity : Bool) (parameter : Parameter) :
    Except ClassifyError PipedInput := do
  let names ← inputNames signature parameter
  let (types, isTuple) := carriedTypes parameter.hint
  let shape := shapeOf isTuple names.length types.length
  if shape ≠ .packed && names.length ≠ types.length then throw (.imbalanced names types)
  let entities :=
    if forEntity && shape ≠ .packed then positions (Host.denotes host.entity) 0 types else []
  if 1 < entities.length then throw .severalEntities
  if shape = .elements then
    match parameter.default with
    | some default =>
      if !isTupleOf types.length default then throw (.inputDefault default types.length)
    | none => pure ()
  return { parameter, names, types, shape, entityIndex := entities.head? }

/-- The marker whose name the thing in an annotation goes by. -/
def foreignMarker? (nameOf? : Value → Option String) (hint : Option Value) : Option String := do
  let name ← nameOf? (← hint).origin
  if Host.handleMarkers.contains name then some name else none

/-- Does an annotation denote the host's thing? -/
def denotes (value : Value) (hint : Option Value) : Bool :=
  hint.any (Host.denotes value)

/-- Add one parameter to those that have a role already. -/
def place (nameOf? : Value → Option String) (signature : Signature) (host : Host)
    (forEntity : Bool) (sofar : Classification) (parameter : Parameter) :
    Except ClassifyError Classification := do
  checkName parameter
  let hint := parameter.hint
  let origin := hint.map Value.origin
  let withRole (role : Role) (changed : Classification) : Classification :=
    { changed with roles := changed.roles ++ [(parameter, role)] }
  if denotes host.input origin then
    if let some first := sofar.piped then throw (.secondInput first.parameter.name)
    let piped ← parseInput signature host forEntity parameter
    if piped.entityIndex.isSome then
      if let some first := sofar.entity then throw (.entityTaken first.name)
      return withRole .pipedInput { sofar with piped := some piped, entity := some parameter }
    return withRole .pipedInput { sofar with piped := some piped }
  if let some pattern := parameter.pattern then throw (.capturedPattern pattern)
  if denotes host.world hint then
    if let some first := sofar.context then throw (.secondContext first.name)
    return withRole .context { sofar with context := some parameter }
  if forEntity && denotes host.entity hint then
    if let some first := sofar.entity then throw (.entityTaken first.name)
    return withRole .entity { sofar with entity := some parameter }
  if host.systemParams.any (denotes · origin) then
    return withRole .systemParam sofar
  if !denotes host.entity hint then
    if let some marker := foreignMarker? nameOf? hint then
      throw (.foreignMarker marker (hint.getD .any) host.root)
  return withRole .capturedField sofar

/-- Place parameters in turn; a failure names the parameter it is about. -/
def placeAll (nameOf? : Value → Option String) (signature : Signature) (host : Host)
    (forEntity : Bool) (sofar : Classification) :
    List Parameter → Except ClassifyFailure Classification
  | [] => .ok sofar
  | parameter :: rest =>
    match place nameOf? signature host forEntity sofar parameter with
    | .error error => .error ⟨error, some parameter.name⟩
    | .ok placed => placeAll nameOf? signature host forEntity placed rest

/-- The names of the fields that the record will have: captured parameters, then the input's. -/
def fieldNames (classification : Classification) : List String :=
  (classification.ofRole .capturedField).map Parameter.name ++
    (classification.piped.map fun piped => piped.threaded.map Prod.fst).getD []

/-- The parameter that brings in a field. -/
def ownerOf (classification : Classification) (field : String) : String :=
  match classification.piped with
  | some piped => if piped.names.contains field then piped.parameter.name else field
  | none => field

/-- Sort the parameters of a signature into roles. -/
def ofSignature (nameOf? : Value → Option String) (signature : Signature) (host : Host)
    (forEntity : Bool) :
    Except ClassifyFailure Classification := do
  let placed ← placeAll nameOf? signature host forEntity
    { roles := [], context := none, entity := none, piped := none } signature.parameters
  if let some name := placed.fieldNames.find? recordAttributes.contains then
    throw ⟨.recordAttribute name, some (placed.ownerOf name)⟩
  if forEntity && placed.entity.isNone then throw ⟨.missingEntity, none⟩
  return placed

end Classification

end Deferred
