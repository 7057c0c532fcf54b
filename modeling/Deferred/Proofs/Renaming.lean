import Deferred.Code.Rename

/-!
# Names that stay what they are

Code is written before its names are given the spelling and the meaning that they have where it
stands.  Where a renaming leaves every name in a piece of code alone, it leaves the code alone; this
can be checked name by name.
-/

namespace Deferred.Code

/-- A renaming leaves a name alone. -/
def Renaming.keeps (how : Renaming) (name : String) : Bool := how.name name == name

theorem Renaming.name_of_keeps {how : Renaming} {name : String} (kept : how.keeps name = true) :
    how.name name = name := eq_of_beq kept

theorem Renaming.map_of_keeps {how : Renaming} {names : List String}
    (kept : names.all how.keeps = true) : names.map how.name = names :=
  (List.map_congr_left fun name isIn =>
    Renaming.name_of_keeps (List.all_eq_true.mp kept name isIn)).trans (List.map_id names)

namespace Expr

mutual

/-- Does a renaming leave every name in an expression alone? -/
def keeps (how : Renaming) : Expr → Bool
  | .name id => how.keeps id
  | .member target part => keeps how target && how.keeps part
  | .text _ => true
  | .call function positional keywords =>
    keeps how function && keepsAll how positional && keepsKeywords how keywords
  | .tuple items => keepsAll how items
  | .table entries => keepsEntries how entries
  | .subscript head items => keeps how head && keepsAll how items
  | .closure parameters body => parameters.all how.keeps && keeps how body

def keepsAll (how : Renaming) : List Expr → Bool
  | [] => true
  | expr :: rest => keeps how expr && keepsAll how rest

def keepsKeywords (how : Renaming) : List (String × Expr) → Bool
  | [] => true
  | (keyword, expr) :: rest =>
    how.keyword keyword == keyword && keeps how expr && keepsKeywords how rest

def keepsEntries (how : Renaming) : List (Expr × Expr) → Bool
  | [] => true
  | (key, value) :: rest => keeps how key && keeps how value && keepsEntries how rest

end

mutual

theorem renamed_of_keeps {how : Renaming} :
    ∀ {expr : Expr}, expr.keeps how = true → expr.renamed how = expr
  | .name id, kept => by rw [renamed, Renaming.name_of_keeps kept]
  | .member target part, kept => by
    rw [keeps, Bool.and_eq_true] at kept
    rw [renamed, renamed_of_keeps kept.1, Renaming.name_of_keeps kept.2]
  | .text value, _ => rfl
  | .call function positional keywords, kept => by
    rw [keeps, Bool.and_eq_true, Bool.and_eq_true] at kept
    rw [renamed, renamed_of_keeps kept.1.1, renamedAll_of_keeps kept.1.2,
      renamedKeywords_of_keeps kept.2]
  | .tuple items, kept => by rw [renamed, renamedAll_of_keeps kept]
  | .table entries, kept => by rw [renamed, renamedEntries_of_keeps kept]
  | .subscript head items, kept => by
    rw [keeps, Bool.and_eq_true] at kept
    rw [renamed, renamed_of_keeps kept.1, renamedAll_of_keeps kept.2]
  | .closure parameters body, kept => by
    rw [keeps, Bool.and_eq_true] at kept
    rw [renamed, Renaming.map_of_keeps kept.1, renamed_of_keeps kept.2]

theorem renamedAll_of_keeps {how : Renaming} :
    ∀ {exprs : List Expr}, keepsAll how exprs = true → renamedAll how exprs = exprs
  | [], _ => rfl
  | expr :: rest, kept => by
    rw [keepsAll, Bool.and_eq_true] at kept
    rw [renamedAll, renamed_of_keeps kept.1, renamedAll_of_keeps kept.2]

theorem renamedKeywords_of_keeps {how : Renaming} :
    ∀ {keywords : List (String × Expr)}, keepsKeywords how keywords = true →
      renamedKeywords how keywords = keywords
  | [], _ => rfl
  | (keyword, expr) :: rest, kept => by
    rw [keepsKeywords, Bool.and_eq_true, Bool.and_eq_true] at kept
    rw [renamedKeywords, eq_of_beq kept.1.1, renamed_of_keeps kept.1.2,
      renamedKeywords_of_keeps kept.2]

theorem renamedEntries_of_keeps {how : Renaming} :
    ∀ {entries : List (Expr × Expr)}, keepsEntries how entries = true →
      renamedEntries how entries = entries
  | [], _ => rfl
  | (key, value) :: rest, kept => by
    rw [keepsEntries, Bool.and_eq_true, Bool.and_eq_true] at kept
    rw [renamedEntries, renamed_of_keeps kept.1.1, renamed_of_keeps kept.1.2,
      renamedEntries_of_keeps kept.2]

end

end Expr

/-- Does a renaming leave every name in a parameter list alone? -/
def ParameterItem.keeps (how : Renaming) : ParameterItem → Bool
  | required name => how.keeps name
  | optional name default => how.keeps name && how.keeps default
  | star => true
  | slash => true

theorem ParameterItem.renamed_of_keeps {how : Renaming} {item : ParameterItem}
    (kept : item.keeps how = true) : item.renamed how = item := by
  cases item with
  | required name => rw [renamed, Renaming.name_of_keeps kept]
  | optional name default =>
    rw [keeps, Bool.and_eq_true] at kept
    rw [renamed, Renaming.name_of_keeps kept.1, Renaming.name_of_keeps kept.2]
  | star => rfl
  | slash => rfl

theorem ParameterItem.map_of_keeps {how : Renaming} {items : List ParameterItem}
    (kept : items.all (ParameterItem.keeps how) = true) :
    items.map (ParameterItem.renamed how) = items :=
  (List.map_congr_left fun item isIn =>
    renamed_of_keeps (List.all_eq_true.mp kept item isIn)).trans (List.map_id items)

namespace Statement

mutual

/-- Does a renaming leave every name in a statement alone? -/
def keeps (how : Renaming) : Statement → Bool
  | .expression value => value.keeps how
  | .assign name value => how.keeps name && value.keeps how
  | .field name _ value => how.keeps name && value.all (Expr.keeps how)
  | .returns value => value.keeps how
  | .raises value => value.keeps how
  | .pass => true
  | .doc _ => true
  | .blank => true
  | .define decorators name parameters body =>
    Expr.keepsAll how decorators && how.keeps name &&
      parameters.all (ParameterItem.keeps how) && keepsAll how body
  | .declare decorators name bases body =>
    Expr.keepsAll how decorators && how.keeps name && Expr.keepsAll how bases && keepsAll how body
  | .choose branches => keepsBranches how branches

def keepsAll (how : Renaming) : List Statement → Bool
  | [] => true
  | statement :: rest => keeps how statement && keepsAll how rest

def keepsBranches (how : Renaming) : List (Expr × List Statement) → Bool
  | [] => true
  | (condition, body) :: rest => condition.keeps how && keepsAll how body && keepsBranches how rest

end

mutual

theorem renamed_of_keeps {how : Renaming} :
    ∀ {statement : Statement}, statement.keeps how = true → statement.renamed how = statement
  | .expression value, kept => by rw [renamed, Expr.renamed_of_keeps kept]
  | .assign name value, kept => by
    rw [keeps, Bool.and_eq_true] at kept
    rw [renamed, Renaming.name_of_keeps kept.1, Expr.renamed_of_keeps kept.2]
  | .field name hint none, kept => by
    rw [keeps, Bool.and_eq_true] at kept
    rw [renamed, Renaming.name_of_keeps kept.1, Option.map_none]
  | .field name hint (some value), kept => by
    rw [keeps, Bool.and_eq_true] at kept
    rw [renamed, Renaming.name_of_keeps kept.1, Option.map_some, Expr.renamed_of_keeps kept.2]
  | .returns value, kept => by rw [renamed, Expr.renamed_of_keeps kept]
  | .raises value, kept => by rw [renamed, Expr.renamed_of_keeps kept]
  | .pass, _ => rfl
  | .doc text, _ => rfl
  | .blank, _ => rfl
  | .define decorators name parameters body, kept => by
    simp only [keeps, Bool.and_eq_true] at kept
    rw [renamed, Expr.renamedAll_of_keeps kept.1.1.1, Renaming.name_of_keeps kept.1.1.2,
      ParameterItem.map_of_keeps kept.1.2, renamedAll_of_keeps kept.2]
  | .declare decorators name bases body, kept => by
    simp only [keeps, Bool.and_eq_true] at kept
    rw [renamed, Expr.renamedAll_of_keeps kept.1.1.1, Renaming.name_of_keeps kept.1.1.2,
      Expr.renamedAll_of_keeps kept.1.2, renamedAll_of_keeps kept.2]
  | .choose branches, kept => by rw [renamed, renamedBranches_of_keeps kept]

theorem renamedAll_of_keeps {how : Renaming} :
    ∀ {statements : List Statement}, keepsAll how statements = true →
      renamedAll how statements = statements
  | [], _ => rfl
  | statement :: rest, kept => by
    rw [keepsAll, Bool.and_eq_true] at kept
    rw [renamedAll, renamed_of_keeps kept.1, renamedAll_of_keeps kept.2]

theorem renamedBranches_of_keeps {how : Renaming} :
    ∀ {branches : List (Expr × List Statement)}, keepsBranches how branches = true →
      renamedBranches how branches = branches
  | [], _ => rfl
  | (condition, body) :: rest, kept => by
    rw [keepsBranches, Bool.and_eq_true, Bool.and_eq_true] at kept
    rw [renamedBranches, Expr.renamed_of_keeps kept.1.1, renamedAll_of_keeps kept.1.2,
      renamedBranches_of_keeps kept.2]

end

end Statement

end Deferred.Code
