import Deferred.Code.Basic
import Deferred.Code.Emitter

/-!
# Printing generated code

Code has one written form: arguments are separated by a comma and a blank, a block is indented by
four blanks, and every item of a tuple is followed by its comma.
-/

namespace Deferred.Code

open Deferred.Text

/-- Texts with a comma and a blank between any two. -/
def commaSeparated (items : List String) : String :=
  String.intercalate ", " items

namespace Expr

mutual

/-- The written form of an expression. -/
def written : Expr → String
  | name id => id
  | member target part => written target ++ "." ++ part
  | text value => quote value
  | call function positional keywords =>
    written function ++ "(" ++
      commaSeparated (writtenAll positional ++ writtenKeywords keywords) ++ ")"
  | tuple items => "(" ++ commaSeparated (writtenAll items) ++ ",)"
  | table entries => "\x7b" ++ commaSeparated (writtenEntries entries) ++ "\x7d"
  | subscript head items => written head ++ "[" ++ commaSeparated (writtenAll items) ++ "]"
  | closure parameters body =>
    (if parameters.isEmpty then "lambda" else "lambda " ++ commaSeparated parameters) ++ ": " ++
      written body

def writtenAll : List Expr → List String
  | [] => []
  | expr :: rest => written expr :: writtenAll rest

def writtenKeywords : List (String × Expr) → List String
  | [] => []
  | (keyword, value) :: rest => (keyword ++ "=" ++ written value) :: writtenKeywords rest

def writtenEntries : List (Expr × Expr) → List String
  | [] => []
  | (key, value) :: rest => (written key ++ ": " ++ written value) :: writtenEntries rest

end

end Expr

/-- The written form of an item of a parameter list. -/
def ParameterItem.written : ParameterItem → String
  | required name => name
  | optional name default => name ++ "=" ++ default
  | star => "*"
  | slash => "/"

/-- The written form of a parameter list. -/
def writtenParameters (parameters : List ParameterItem) : String :=
  commaSeparated (parameters.map ParameterItem.written)

namespace Statement

variable {ν : Type}

/-- The lines of decorators. -/
def emitDecorators (decorators : List Expr) (emitter : Emitter ν) : Emitter ν :=
  decorators.foldl (fun sofar decorator => sofar.line ("@" ++ decorator.written)) emitter

mutual

/-- Add the lines of a statement. -/
def emit : Statement → Emitter ν → Emitter ν
  | expression value, emitter => emitter.line value.written
  | assign name value, emitter => emitter.line (name ++ " = " ++ value.written)
  | field name hint none, emitter => emitter.line (name ++ ": " ++ hint.written)
  | field name hint (some value), emitter =>
    emitter.line (name ++ ": " ++ hint.written ++ " = " ++ value.written)
  | returns value, emitter => emitter.line ("return " ++ value.written)
  | raises value, emitter => emitter.line ("raise " ++ value.written)
  | pass, emitter => emitter.line "pass"
  | doc text, emitter => emitter.doc text
  | blank, emitter => emitter.line ""
  | define decorators name parameters body, emitter =>
    (emitAll body ((emitDecorators decorators emitter).enter
      ("def " ++ name ++ "(" ++ writtenParameters parameters ++ "):"))).leave
  | declare decorators name bases body, emitter =>
    (emitAll body ((emitDecorators decorators emitter).enter
      ("class " ++ name ++ "(" ++ commaSeparated (Expr.writtenAll bases) ++ "):"))).leave
  | choose branches, emitter => emitBranches "if" branches emitter

/-- Add the lines of several statements. -/
def emitAll : List Statement → Emitter ν → Emitter ν
  | [], emitter => emitter
  | statement :: rest, emitter => emitAll rest (emit statement emitter)

/-- Add the lines of branches, the first under `keyword`. -/
def emitBranches (keyword : String) : List (Expr × List Statement) → Emitter ν → Emitter ν
  | [], emitter => emitter
  | (condition, body) :: rest, emitter =>
    emitBranches "elif" rest
      (emitAll body (emitter.enter (keyword ++ " " ++ condition.written ++ ":"))).leave

end

end Statement

/-- Print code and bind what it uses, as a fragment. -/
def fragmentOf {ν : Type} [BEq ν] (name : String) (code : List Statement)
    (uses : List (String × ν)) : Except BindingConflict (Fragment ν) := do
  let bound ← ({} : Emitter ν).bindAll uses
  return (Statement.emitAll code bound).fragment name

end Deferred.Code
