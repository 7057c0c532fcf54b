import Deferred.Class

/-!
# Values

The values that annotations, defaults, options, components and scripts hold.  Plain values are
themselves; everything with an identity of its own (lists, components, records, worlds, handles,
routines) is an `object`: its class and its place in the store.  The class stands beside the place
because it never changes, so that the class of a value is known without a store.

Equal plain values can still have been made apart.  A mark tells them apart where that is asked;
the mark `0` is shared by everything that is written into definitions.
-/

namespace Deferred

/-- What tells values apart that were made separately. -/
abbrev Mark := Nat

/-- The place of an object in the store. -/
abbrev Ref := Nat

/-- A value. -/
inductive Value where
  | absent
  | ellipsis
  | bool (value : Bool)
  | int (value : Int) (mark : Mark)
  | float (value : Float) (mark : Mark)
  | text (value : String) (mark : Mark)
  | tuple (items : List Value) (mark : Mark)
  | complex (real imaginary : Float) (mark : Mark)
  | octets (content : List UInt8) (mark : Mark)
  /-- The whole numbers from one on, in steps, up to another that is left out. -/
  | range (start stop step : Int) (mark : Mark)
  /-- The places of a part of a sequence. -/
  | slice (start stop step : Value) (mark : Mark)
  /-- The answer of an operator that leaves the matter to the other operand. -/
  | declined
  /-- A handle of an entity.  Worlds give out whole numbers as indices. -/
  | entity (index : Value) (mark : Mark)
  /-- A destructuring pattern: the names it binds. -/
  | pattern (names : List Value) (mark : Mark)
  | success (value : Value) (mark : Mark)
  | failure (value : Value) (mark : Mark)
  | cls (id : ClassId)
  | typeVariable (name : String)
  /-- A form that becomes a type once it has arguments, or one that stands for a type. -/
  | special (name : String)
  /-- A class with arguments in brackets. -/
  | applied (origin : ClassId) (arguments : List Value) (mark : Mark)
  /-- A type or the absent value. -/
  | optional (inner : Value)
  /-- A variable of the class rather than of its instances. -/
  | classVar (inner : Value)
  /-- A type with notes. -/
  | annotated (inner : Value) (notes : List Value)
  /-- Quoted text in an annotation whose meaning is still to be found. -/
  | forward (text : String)
  | module (name : String)
  /-- A function that is always there. -/
  | builtin (name : String)
  /-- A method of a class that is there from the start, not bound to a receiver. -/
  | hostMethod (owner : ClassId) (name : String)
  /-- A function bound to its receiver. -/
  | bound (receiver function : Value) (mark : Mark)
  /-- The mark of a missing input. -/
  | noInput
  | object (id : ClassId) (ref : Ref)
  deriving Inhabited

namespace Value

/-- Text that is written into a definition. -/
def ofText (value : String) : Value := text value 0

/-- A whole number that is written into a definition. -/
def ofInt (value : Int) : Value := int value 0

/-- The class that absence belongs to. -/
def nothing : Value := cls ClassId.none

/-- The type of the receiver: marks a chainable routine when it is returned. -/
def receiver : Value := special "Self"

/-- The type that says nothing. -/
def any : Value := cls ClassId.any

/-- The class of a class. -/
def metaclass (id : ClassId) : ClassId :=
  match id.maker with
  | .plain => ClassId.type
  | .abstract => ClassId.abstractMeta
  | .anything => ClassId.anyMeta

/-- The class of a value. -/
def classId : Value → ClassId
  | absent => ClassId.none
  | ellipsis => ClassId.ellipsis
  | bool _ => ClassId.bool
  | int _ _ => ClassId.int
  | float _ _ => ClassId.float
  | text _ _ => ClassId.text
  | tuple _ _ => ClassId.tuple
  | complex _ _ _ => ClassId.complex
  | octets _ _ => ClassId.octets
  | range _ _ _ _ => ClassId.range
  | slice _ _ _ _ => ClassId.slice
  | declined => ClassId.declined
  | entity _ _ => ClassId.entity
  | pattern _ _ => ClassId.pattern
  | success _ _ => ClassId.success
  | failure _ _ => ClassId.failure
  | cls id => metaclass id
  | typeVariable _ => ClassId.typeVariable
  | special _ => ClassId.specialForm
  | applied id _ _ => if id.isBuiltinGeneric then ClassId.builtinAlias else ClassId.typingAlias
  | optional _ => ClassId.unionAlias
  | classVar _ => ClassId.typingAlias
  | annotated _ _ => ClassId.annotatedAlias
  | forward _ => ClassId.forwardReference
  | module _ => ClassId.module
  | builtin _ => ClassId.builtin
  | hostMethod owner name => ClassId.functionKind owner name
  | bound _ function _ =>
    match function with
    | hostMethod owner name => ClassId.methodKind owner name
    | builtin _ => ClassId.builtin
    | _ => ClassId.method
  | noInput => ClassId.object
  | object id _ => id

/-- The value that stands for a class. -/
def ofClass (id : ClassId) : Value := cls id

/-- The class a value stands for. -/
def asClass? : Value → Option ClassId
  | cls id => some id
  | _ => none

/-- Is this the class `id` itself? -/
def isClass (id : ClassId) : Value → Bool
  | cls other => other = id
  | _ => false

mutual

/-- Can a value be a key? -/
def hashable : Value → Bool
  | tuple items _ => allHashable items
  | slice _ _ _ _ => false
  | entity index _ => hashable index
  | pattern names _ => allHashable names
  | success value _ => hashable value
  | failure value _ => hashable value
  | applied _ arguments _ => allHashable arguments
  | optional inner => hashable inner
  | classVar inner => hashable inner
  | annotated inner notes => hashable inner && allHashable notes
  | object id _ => !id.isUnhashable
  | _ => true

def allHashable : List Value → Bool
  | [] => true
  | value :: rest => hashable value && allHashable rest

end

/-- Is a whole number the only one of its value? -/
def isSmall (value : Int) : Bool := -5 ≤ value && value ≤ 256

/-- Is a text the only one of its value? -/
def isShort (value : String) : Bool :=
  match value.toList with
  | [] => true
  | [c] => c.toNat < 256
  | _ => false

/-- Is a value the same object as another? -/
def same : Value → Value → Bool
  | absent, absent => true
  | ellipsis, ellipsis => true
  | bool a, bool b => a == b
  | int a m, int b n => a == b && (m == n || isSmall a)
  | float a m, float b n => a.toBits == b.toBits && m == n
  | text a m, text b n => a == b && (m == n || isShort a)
  | tuple a m, tuple b n => sameAll a b && (m == n || a.isEmpty)
  | complex a b m, complex c d n => a.toBits == c.toBits && b.toBits == d.toBits && m == n
  | octets a m, octets b n => a == b && (m == n || a.length < 2)
  | range a b c m, range d e f n => a == d && b == e && c == f && m == n
  | slice a b c m, slice d e f n => same a d && same b e && same c f && m == n
  | declined, declined => true
  | entity a m, entity b n => same a b && m == n
  | pattern a m, pattern b n => sameAll a b && m == n
  | success a m, success b n => same a b && m == n
  | failure a m, failure b n => same a b && m == n
  | cls a, cls b => a == b
  | typeVariable a, typeVariable b => a == b
  | special a, special b => a == b
  | applied a as m, applied b bs n => a == b && sameAll as bs && m == n
  | optional a, optional b => same a b
  | classVar a, classVar b => same a b
  | annotated a as, annotated b bs => same a b && sameAll as bs
  | forward a, forward b => a == b
  | module a, module b => a == b
  | builtin a, builtin b => a == b
  | hostMethod a m, hostMethod b n => a == b && m == n
  | bound a f m, bound b g n => same a b && same f g && m == n
  | noInput, noInput => true
  | object _ a, object _ b => a == b
  | _, _ => false
where
  sameAll : List Value → List Value → Bool
    | [], [] => true
    | a :: as, b :: bs => same a b && sameAll as bs
    | _, _ => false

/-- Bindings compare values by identity: a name is bound to one object. -/
instance : BEq Value := ⟨same⟩

/-- The class a type applies, or the type itself: `tuple` for `tuple[int]`. -/
def origin : Value → Value
  | applied origin _ _ => cls origin
  | optional _ => special "Union"
  | classVar _ => special "ClassVar"
  | annotated _ _ => cls ClassId.annotated
  | type => type

/-- The types a type is built from. -/
def arguments : Value → List Value
  | applied _ arguments _ => arguments
  | optional inner => [inner, nothing]
  | classVar inner => [inner]
  | annotated inner notes => inner :: notes
  | _ => []

/-- A type without its notes. -/
def stripNotes : Value → Value
  | annotated inner _ => inner
  | type => type

/-- Make a type optional.  Absence is optional already, and so is an optional type. -/
def orNothing : Value → Value
  | optional inner => optional inner
  | type => if type.isClass ClassId.none then type else optional type

/-- Put notes on a type; notes on notes are one list, the inner ones first. -/
def withNotes (notes : List Value) : Value → Value
  | annotated inner first => annotated inner (first ++ notes)
  | type => annotated type notes

/-- Add a name to those found, once. -/
def addName (found : List String) (name : String) : List String :=
  if found.contains name then found else found ++ [name]

mutual

/-- The type variables of a type, in order of occurrence, each added once to those found. -/
def collectVariables : Value → List String → List String
  | typeVariable name, found => addName found name
  | applied _ arguments _, found => collectAll arguments found
  | optional inner, found => collectVariables inner found
  | classVar inner, found => collectVariables inner found
  | annotated inner _, found => collectVariables inner found
  | _, found => found

def collectAll : List Value → List String → List String
  | [], found => found
  | type :: rest, found => collectAll rest (collectVariables type found)

end

mutual

/-- The type variables of a type and of the notes in it, each added once to those found.  What a
function takes is a list of types, which is not looked into. -/
def collectMentioned : Value → List String → List String
  | typeVariable name, found => addName found name
  | applied origin arguments _, found =>
    if origin = ClassId.callable then collectLastMentioned arguments found
    else collectAllMentioned arguments found
  | optional inner, found => collectMentioned inner found
  | classVar inner, found => collectMentioned inner found
  | annotated inner notes, found => collectAllMentioned notes (collectMentioned inner found)
  | _, found => found

def collectAllMentioned : List Value → List String → List String
  | [], found => found
  | type :: rest, found => collectAllMentioned rest (collectMentioned type found)

def collectLastMentioned : List Value → List String → List String
  | [], found => found
  | [type], found => collectMentioned type found
  | _ :: next :: rest, found => collectLastMentioned (next :: rest) found

end

/-- The text a value is. -/
def asText? : Value → Option String
  | text value _ => some value
  | _ => none

/-- What a name means that no module defines. -/
def standard? (name : String) : Option Value :=
  match Standard.className? name with
  | some found => some (cls (.declared "builtins" found))
  | none =>
    if Standard.functions.contains name then some (builtin name)
    else if name = "Ellipsis" then some ellipsis
    else if name = "NotImplemented" then some declined
    else if name = "__debug__" then some (bool true)
    else none

/-- The elements of a tuple. -/
def elements : Value → List Value
  | tuple items _ => items
  | _ => []

end Value

end Deferred
