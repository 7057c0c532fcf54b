import Deferred.Text.Identifier
import Deferred.Text.Quoted

/-!
# Generated code

The code of a command is data before it is text: expressions, parameter lists and statements of the
small language that records, extensions and routing are written in.  The same code is printed for
the reader and run for its effect.  It never spells out a value: whatever a definition brings in is
a name under the reserved opening, bound beside the code.
-/

namespace Deferred.Code

/-- An expression. -/
inductive Expr where
  | name (id : String)
  | member (target : Expr) (name : String)
  | text (value : String)
  | call (function : Expr) (positional : List Expr) (keywords : List (String × Expr))
  /-- A tuple, written with a comma after each item. -/
  | tuple (items : List Expr)
  /-- A table from keys to values. -/
  | table (entries : List (Expr × Expr))
  /-- A generic class applied to type parameters. -/
  | subscript (head : Expr) (items : List Expr)
  /-- A nameless function. -/
  | closure (parameters : List String) (body : Expr)
  deriving Repr, Inhabited

/-- An item of a parameter list. -/
inductive ParameterItem where
  | required (name : String)
  /-- A parameter with a default, by the name the default is bound to. -/
  | optional (name default : String)
  /-- What follows is given by name only. -/
  | star
  /-- What came before is given by position only. -/
  | slash
  deriving DecidableEq, Repr, Inhabited

/-- A statement. -/
inductive Statement where
  | expression (value : Expr)
  | assign (name : String) (value : Expr)
  /-- A field with its annotation and, if it has one, what it is set to. -/
  | field (name : String) (hint : Expr) (value : Option Expr)
  | returns (value : Expr)
  | raises (value : Expr)
  | pass
  | doc (text : String)
  | blank
  | define (decorators : List Expr) (name : String) (parameters : List ParameterItem)
      (body : List Statement)
  | declare (decorators : List Expr) (name : String) (bases : List Expr) (body : List Statement)
  /-- The first branch whose condition holds is run. -/
  | choose (branches : List (Expr × List Statement))
  deriving Repr, Inhabited

/-! ## Names that generated code defines -/

open Deferred.Text

def recordAlias : String := reserved "record"
def extensionAlias : String := reserved "trait"
def methodName : String := reserved "method"
def routineName : String := reserved "routine"
def routeName : String := reserved "route"
def implementationsName : String := reserved "implementations"
def queuedName : String := reserved "queued_impl"
def directName : String := reserved "direct_impl"
def worldName : String := reserved "world"
def entityName : String := reserved "entity"
def commandName : String := reserved "command"

/-- A call without keywords. -/
def Expr.apply (function : Expr) (arguments : List Expr) : Expr :=
  .call function arguments []

/-- A call of a method. -/
def Expr.send (target : Expr) (method : String) (arguments : List Expr) : Expr :=
  .call (.member target method) arguments []

/-- The name a parameter binds; a mark binds none. -/
def ParameterItem.name? : ParameterItem → Option String
  | required name => some name
  | optional name _ => some name
  | star => none
  | slash => none

end Deferred.Code
