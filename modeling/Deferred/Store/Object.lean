import Deferred.Code.Basic
import Deferred.Data.Slots
import Deferred.Plan.Basic
import Deferred.Script.Expr
import Deferred.World.Basic

/-!
# Objects

An object has a class and a place in the store; what stands at that place is described here.  Most
objects are made of nothing but their attributes; those that are not have a constructor of their
own.
-/

namespace Deferred

/-- Names with what they stand for, in the order in which they came. -/
abbrev Bindings := List (String × Value)

/-- What a function does when it is called. -/
inductive FunctionBody where
  /-- Evaluate a script with a copy of the variables of a scope and the parameters. -/
  | script (body : Script) (scope : Ref)
  /-- Run generated code among the names of a space. -/
  | code (body : List Code.Statement) (space : Ref)
  /-- Evaluate generated code that was made inside another function. -/
  | codeClosure (body : Code.Expr) (around : Bindings) (space : Ref)
  /-- Call the implementation for the class of the first argument. -/
  | dispatch (implementations : List (ClassId × Value)) (otherwise : Value)
  /-- Start nothing: a suspended call. -/
  | suspended
  /-- Do nothing. -/
  | inert
  deriving Inhabited

/-- A function. -/
structure FunctionObject where
  name : String
  qualname : String
  /-- The module the function says it belongs to. -/
  home : Value
  doc : Value
  parameters : List CallParameter
  /-- The table of annotations. -/
  annotations : Value := .absent
  body : FunctionBody
  file : String := "<unknown>"
  line : Nat := 0
  /-- The name that the code of the function goes by, on its own and with those around it. -/
  codeName : String := "<lambda>"
  codePath : String := "<lambda>"
  /-- The text the function was written in. -/
  source : Source := .missing
  /-- What the names of the module meant when the function was made. -/
  names : Bindings := []
  deriving Inhabited

/-- The part of a table that is looked at. -/
inductive TablePart where
  | keys
  | values
  | items
  deriving DecidableEq, Repr, Inhabited

/-- Where an iteration stands. -/
inductive Cursor where
  /-- The next position in a list that may still change. -/
  | list (target : Ref) (position : Nat)
  /-- How many items are left of a list that is gone through from its end. -/
  | listBack (target : Ref) (left : Nat)
  /-- The items that are left. -/
  | items (rest : List Value)
  /-- The keys that are left of a table that must keep its `size`. -/
  | table (part : TablePart) (target : Ref) (size : Nat) (rest : List Value)
  /-- The items that are left of a set that must keep its `size`. -/
  | set (target : Ref) (size : Nat) (rest : List Value)
  /-- The next whole number, the step to the one after it, and how many are left. -/
  | range (next step : Int) (left : Nat)
  /-- The items of another iteration with their numbers. -/
  | numbered (source : Value) (next : Int)
  /-- The items of several iterations side by side; `strict` asks for as many from each. -/
  | zipped (sources : List Value) (strict : Bool)
  /-- What a function makes of the items of several iterations. -/
  | mapped (function : Value) (sources : List Value)
  /-- The items of another iteration that a function is true of. -/
  | kept (function source : Value)
  /-- What a function answers until it answers with a certain value. -/
  | answers (function last : Value)
  /-- The items that a value gives out by index, from a position on. -/
  | indexed (target : Value) (position : Nat)
  /-- The matches of a query that was not asked for any yet. -/
  | query (query : Value)
  /-- The matches of a query among the entities that an iteration still gives out. -/
  | running (query entities : Value)
  /-- The second parts of the pairs that an iteration gives out. -/
  | seconds (pairs : Value)
  deriving Inhabited

/-- The data of one generation that outlives it. -/
structure Generation where
  name : String
  qualname : String
  home : String
  /-- The line of the definition. -/
  line : Int
  mode : Mode
  forEntity : Bool
  method : String
  recordClass : ClassId
  extensionClass : Option ClassId
  extensionMethod : Option Value
  implementations : List (ClassId × Value)
  routine : Value
  shadow : Option Value
  fields : List Field
  source : String
  deriving Inhabited

/-- What stands at a place in the store. -/
inductive Object where
  | list (items : List Value)
  | dict (entries : List (Value × Value))
  | set (slots : Slots Value)
  /-- A part of a table, as the table is at the moment. -/
  | view (part : TablePart) (table : Value)
  /-- Octets that can change. -/
  | octets (content : List UInt8)
  /-- An object made of nothing but its attributes. -/
  | plain
  /-- An instance of a class below one of plain values, with the plain value it is. -/
  | extended (base : Value)
  | exception (arguments : List Value)
  | world (world : World)
  | queue (pending : List Value)
  | iteration (cursor : Cursor)
  | function (function : FunctionObject)
  | partialCall (function : Value) (positional : List Value) (keywords : List (String × Value))
  /-- A command that calls a function. -/
  | scripted (function : Value)
  /-- The variables of a scenario or of a running function, and the module it belongs to. -/
  | scope (module : String) (locals : Bindings)
  /-- The names that a piece of generated code sees. -/
  | space (names : Bindings)
  | artifact (generation : Generation)
  deriving Inhabited

/-- An object with its attributes. -/
structure Cell where
  object : Object
  attributes : Bindings := []
  deriving Inhabited

/-- A field of a class whose instances are made of fields. -/
structure RecordField where
  /-- The name of the attribute that holds the field. -/
  name : String
  /-- The written annotation. -/
  hint : String
  default : Option Value := none
  /-- What makes the default anew for each instance. -/
  factory : Option Value := none
  keywordOnly : Bool := false
  deriving Inhabited

/-- What is known of a class that generated code declared. -/
structure GeneratedClass where
  bases : List ClassId
  /-- The classes it inherits from, itself first. -/
  ancestors : List ClassId
  /-- The type variables it can be applied to. -/
  typeVariables : List Value := []
  /-- The fields of its instances, if they are made of fields. -/
  fields : Option (List RecordField) := none
  /-- Does an instance run a method of its own once its fields are set? -/
  settles : Bool := false
  /-- The classes that were declared to implement it. -/
  registered : List ClassId := []
  deriving Inhabited

end Deferred
