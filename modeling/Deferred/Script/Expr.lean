import Deferred.Operator
import Deferred.Value

/-!
# Scripts

The bodies of routines and the steps of a scenario are expressions of a small script language: they
call methods, build values, loop and log.  A written value (`Datum`) stands for a new value each
time it is evaluated.
-/

namespace Deferred

/-- A value as it is written. -/
inductive Datum where
  | absent
  | bool (value : Bool)
  | int (value : Int)
  | float (value : Float)
  | text (value : String)
  | list (items : List Datum)
  | tuple (items : List Datum)
  | dict (entries : List (Datum × Datum))
  /-- A function of the module, or one that is always there. -/
  | function (name : String)
  /-- A class of the module, or one that is always there. -/
  | type (name : String)
  | module (name : String)
  | entity (index : Datum)
  | pattern (names : List Datum)
  | component (className : String) (value : Datum)
  deriving Inhabited

/-- An expression. -/
inductive Script where
  | datum (value : Datum)
  | variable (name : String)
  /-- Bind a variable and answer with its value. -/
  | bind (name : String) (value : Script)
  | sequence (steps : List Script)
  | choose (condition yes no : Script)
  /-- Run the body once for each item, taking items as they come. -/
  | each (name : String) (items body : Script)
  | list (items : List Script)
  | tuple (items : List Script)
  | component (className : String) (value : Script)
  | attribute (target : Script) (name : String)
  | setAttribute (target : Script) (name : String) (value : Script)
  | hasAttribute (target : Script) (name : String)
  | item (target index : Script)
  | length (target : Script)
  /-- All items of a value, as a list. -/
  | items (target : Script)
  | send (target : Script) (method : String) (positional : List Script)
      (keywords : List (String × Script))
  | invoke (function : Script) (positional : List Script) (keywords : List (String × Script))
  | partialCall (function : Script) (positional : List Script) (keywords : List (String × Script))
  /-- A nameless function; it sees the variables around it as they are when it is called. -/
  | closure (parameters : List String) (body : Script)
  | global (name : String)
  | artifact (routine : Script) (part : String)
  | command (function : Script)
  | entityCommand (function : Script)
  | runSystem (world system : Script) (value : Option Script)
  | noInput
  | newWorld
  | newQueue
  | newCommands (queue world : Script)
  | success (value : Script)
  | failure (value : Script)
  | log (value : Script)
  | raise (text : String)
  | isInstance (value type : Script)
  | same (first second : Script)
  | binary (operator : BinaryOperator) (first second : Script)
  deriving Inhabited

end Deferred
