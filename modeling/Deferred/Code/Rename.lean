import Deferred.Code.Basic
import Deferred.Text.Normal

/-!
# Names in code

Two rules change the names that code is written with.  Every name means its normal spelling, and
inside a class a private name means a longer one that carries the name of the class.  The second
rule leaves the keywords of a call alone.
-/

namespace Deferred.Code

/-- What becomes of the names and of the keywords of a piece of code. -/
structure Renaming where
  name : String → String
  keyword : String → String

namespace Renaming

/-- Every name in its normal spelling. -/
def normal : Renaming := ⟨Text.normalName, Text.normalName⟩

/-- Names as they are meant inside a class. -/
def inside (owner : String) : Renaming := ⟨Text.inClass owner, id⟩

end Renaming

namespace Expr

mutual

/-- An expression with its names changed. -/
def renamed (how : Renaming) : Expr → Expr
  | .name id => .name (how.name id)
  | .member target part => .member (renamed how target) (how.name part)
  | .text value => .text value
  | .call function positional keywords =>
    .call (renamed how function) (renamedAll how positional) (renamedKeywords how keywords)
  | .tuple items => .tuple (renamedAll how items)
  | .table entries => .table (renamedEntries how entries)
  | .subscript head items => .subscript (renamed how head) (renamedAll how items)
  | .closure parameters body => .closure (parameters.map how.name) (renamed how body)

def renamedAll (how : Renaming) : List Expr → List Expr
  | [] => []
  | expr :: rest => renamed how expr :: renamedAll how rest

def renamedKeywords (how : Renaming) : List (String × Expr) → List (String × Expr)
  | [] => []
  | (keyword, expr) :: rest => (how.keyword keyword, renamed how expr) :: renamedKeywords how rest

def renamedEntries (how : Renaming) : List (Expr × Expr) → List (Expr × Expr)
  | [] => []
  | (key, value) :: rest => (renamed how key, renamed how value) :: renamedEntries how rest

end

end Expr

/-- An item of a parameter list with its names changed. -/
def ParameterItem.renamed (how : Renaming) : ParameterItem → ParameterItem
  | required name => .required (how.name name)
  | optional name default => .optional (how.name name) (how.name default)
  | star => .star
  | slash => .slash

namespace Statement

mutual

/-- A statement with its names changed. -/
def renamed (how : Renaming) : Statement → Statement
  | .expression value => .expression (value.renamed how)
  | .assign name value => .assign (how.name name) (value.renamed how)
  | .field name hint value => .field (how.name name) hint (value.map (Expr.renamed how))
  | .returns value => .returns (value.renamed how)
  | .raises value => .raises (value.renamed how)
  | .pass => .pass
  | .doc text => .doc text
  | .blank => .blank
  | .define decorators name parameters body =>
    .define (Expr.renamedAll how decorators) (how.name name)
      (parameters.map (ParameterItem.renamed how)) (renamedAll how body)
  | .declare decorators name bases body =>
    .declare (Expr.renamedAll how decorators) (how.name name) (Expr.renamedAll how bases)
      (renamedAll how body)
  | .choose branches => .choose (renamedBranches how branches)

def renamedAll (how : Renaming) : List Statement → List Statement
  | [] => []
  | statement :: rest => renamed how statement :: renamedAll how rest

def renamedBranches (how : Renaming) :
    List (Expr × List Statement) → List (Expr × List Statement)
  | [] => []
  | (condition, body) :: rest =>
    (condition.renamed how, renamedAll how body) :: renamedBranches how rest

end

/-- The first parameter that a parameter list declares twice. -/
def repeatedIn (parameters : List ParameterItem) : Option String :=
  go [] (parameters.filterMap ParameterItem.name?)
where
  go (seen : List String) : List String → Option String
    | [] => none
    | name :: rest => if seen.contains name then some name else go (name :: seen) rest

mutual

/-- The first function that declares a parameter twice, with that parameter. -/
def repeatedParameter? : Statement → Option (String × String)
  | .define _ name parameters body =>
    match repeatedIn parameters with
    | some parameter => some (name, parameter)
    | none => repeatedParameterAmong? body
  | .declare _ _ _ body => repeatedParameterAmong? body
  | _ => none

def repeatedParameterAmong? : List Statement → Option (String × String)
  | [] => none
  | statement :: rest =>
    match repeatedParameter? statement with
    | some found => some found
    | none => repeatedParameterAmong? rest

end

end Statement

end Deferred.Code
