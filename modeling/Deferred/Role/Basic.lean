import Deferred.Signature.Basic

/-!
# Roles of parameters

Every parameter of a routine plays exactly one role: it receives the world, the entity, the value
of the input channel or something the host injects, or it is captured as a field of the record.
The input channel carries one value; a pattern can take a tuple apart into names, and then each
name is a field of its own and the tuple is rebuilt from the fields when the routine is run.
-/

namespace Deferred

/-- What a parameter stands for. -/
inductive Role where
  | context
  | entity
  | pipedInput
  | systemParam
  | capturedField
  deriving DecidableEq, Repr, Inhabited

namespace Role

/-- The name of a role. -/
def name : Role → String
  | context => "context"
  | entity => "entity"
  | pipedInput => "piped_input"
  | systemParam => "system_param"
  | capturedField => "captured_field"

/-- Is the value of the parameter bound by name when the routine is run by the host? -/
def isBoundByName : Role → Bool
  | capturedField => true
  | entity => true
  | _ => false

end Role

/-- How the names of the input share its value. -/
inductive InputShape where
  /-- One name, one value that is no tuple of known length. -/
  | single
  /-- One name for a whole tuple. -/
  | packed
  /-- One name for each element of a tuple. -/
  | elements
  deriving DecidableEq, Repr, Inhabited

/-- The names and types of the input channel. -/
structure PipedInput where
  parameter : Parameter
  names : List String
  types : List Value
  shape : InputShape
  /-- The position of the element that is the entity of the command. -/
  entityIndex : Option Nat
  deriving Inhabited

namespace PipedInput

/-- Does the channel carry a tuple of known length? -/
def isTuple (piped : PipedInput) : Bool := piped.shape ≠ .single

/-- Does one name hold the whole tuple? -/
def isPacked (piped : PipedInput) : Bool := piped.shape = .packed

/-- Is the value rebuilt from one field for each element? -/
def isAggregate (piped : PipedInput) : Bool := piped.shape = .elements

/-- Leave out the item at a position. -/
def dropAt {α : Type} : Option Nat → List α → List α
  | none, items => items
  | some index, items => items.eraseIdx index

/-- The names that become fields of the record, with their types: all but the entity. -/
def threaded (piped : PipedInput) : List (String × Value) :=
  match piped.shape with
  | .packed => (piped.names.take 1).map fun name => (name, .applied ClassId.tuple piped.types 0)
  | _ => dropAt piped.entityIndex (piped.names.zip piped.types)

end PipedInput

/-- The parameters of a routine sorted by role. -/
structure Classification where
  roles : List (Parameter × Role)
  context : Option Parameter
  entity : Option Parameter
  piped : Option PipedInput
  deriving Inhabited

namespace Classification

/-- The parameters of one role, in order. -/
def ofRole (classification : Classification) (role : Role) : List Parameter :=
  (classification.roles.filter fun entry => entry.2 = role).map Prod.fst

/-- Is the entity an element of the input? -/
def entityIsPiped (classification : Classification) : Bool :=
  classification.piped.any fun piped => piped.entityIndex.isSome

end Classification

/-- How applying a record reaches the routine. -/
inductive Mode where
  /-- The routine is called with the world. -/
  | exclusive
  /-- The host runs the routine once and injects what it asks for. -/
  | scheduled
  deriving DecidableEq, Repr, Inhabited

namespace Mode

def name : Mode → String
  | exclusive => "exclusive"
  | scheduled => "scheduled"

end Mode

/-- Why the roles of a routine do not go together. -/
inductive ModeError where
  | inputWithWorld (parameter : Parameter)
  | systemParamWithWorld (parameter : Parameter)
  | positionalOnly (parameter : Parameter)
  deriving Inhabited

namespace ModeError

def kind (_ : ModeError) : String := "InvalidRoleCombinationError"

/-- The parameter that does not fit. -/
def parameter : ModeError → Parameter
  | inputWithWorld parameter => parameter
  | systemParamWithWorld parameter => parameter
  | positionalOnly parameter => parameter

def message : ModeError → String
  | inputWithWorld _ => "an `In` parameter cannot be combined with `World`"
  | systemParamWithWorld _ => "system parameters cannot be combined with `World`"
  | positionalOnly _ =>
    "positional-only parameters can only be captured by commands taking `World`"

end ModeError

namespace Classification

/-- The first parameter that cannot stand beside the world: everything the host would have to
inject. -/
def clashWithWorld? : List (Parameter × Role) → Option ModeError
  | [] => none
  | (parameter, .pipedInput) :: _ => some (.inputWithWorld parameter)
  | (parameter, .systemParam) :: _ => some (.systemParamWithWorld parameter)
  | _ :: rest => clashWithWorld? rest

/-- The first parameter that must be bound by name and cannot be. -/
def unbindable? (roles : List (Parameter × Role)) : Option ModeError :=
  (roles.find? fun entry => entry.2.isBoundByName && entry.1.isPositionalOnly).map
    fun entry => .positionalOnly entry.1

/-- A routine that takes the world is called directly, every other one is run by the host. -/
def mode (classification : Classification) : Except ModeError Mode :=
  if classification.context.isSome then
    match clashWithWorld? classification.roles with
    | some error => .error error
    | none => .ok .exclusive
  else
    match unbindable? classification.roles with
    | some error => .error error
    | none => .ok .scheduled

end Classification

end Deferred
