import Deferred.Fault
import Deferred.Store.Show

/-!
# Reports as plain data

A report can be handed on as plain data: scalars, lists, and tables whose keys are text.  Whatever
is no plain data in its context is handed on as text.  Before that the context is copied part by
part, which fails for a module, and for a key that is taken apart into a table.
-/

namespace Deferred

/-- Plain data. -/
inductive Plain where
  | absent
  | bool (value : Bool)
  | int (value : Int)
  | float (value : Float)
  | text (value : String)
  | list (items : List Plain)
  | table (entries : List (String × Plain))
  deriving Inhabited

namespace Plain

open Deferred.Text

mutual

/-- Plain data as text. -/
def spelling : Plain → String
  | absent => "None"
  | bool value => if value then "True" else "False"
  | int value => toString value
  | float value => floatText value
  | text value => quote value
  | list items => "[" ++ String.intercalate ", " (spellings items) ++ "]"
  | table entries => "\x7b" ++ String.intercalate ", " (entrySpellings entries) ++ "\x7d"

def spellings : List Plain → List String
  | [] => []
  | item :: rest => spelling item :: spellings rest

def entrySpellings : List (String × Plain) → List String
  | [] => []
  | (key, value) :: rest => (quote key ++ ": " ++ spelling value) :: entrySpellings rest

end

/-- A place as plain data. -/
def ofSpan (span : Span) : Plain :=
  table [("file", text span.file), ("line", int span.line), ("column", int span.column),
    ("segment", text span.segment)]

end Plain

namespace Store

/-- Can a value be copied as it is, to a depth of at most `bound`?  An object that is met again
inside itself is copied already. -/
def copies (store : Store) (opened : List Ref) : Nat → Value → Bool
  | 0, _ => true
  | bound + 1, value =>
    match value with
    | .module _ => false
    | .tuple items _ => items.all (store.copies opened bound)
    | .entity index _ => store.copies opened bound index
    | .pattern names _ => names.all (store.copies opened bound)
    | .success value _ => store.copies opened bound value
    | .failure value _ => store.copies opened bound value
    | .object _ place =>
      if opened.contains place then true
      else
        let copies := store.copies (place :: opened) bound
        match store.object? place with
        | some (.list items) => items.all copies
        | some (.dict entries) => entries.all fun (key, value) => copies key && copies value
        | some (.iteration (.query _)) => false
        | some (.iteration (.running _ _)) => false
        | some (.iteration (.seconds _)) => false
        | some .plain => (store.attributesOf value).all fun (_, value) => copies value
        | _ => true
    | _ => true

/-- Does a key stay a key when it is taken apart? -/
def keepsKey (store : Store) : Nat → Value → Bool
  | 0, _ => true
  | bound + 1, value =>
    match value with
    | .entity _ _ => false
    | .tuple items _ => items.all (store.keepsKey bound)
    | value => store.copies [] bound value

/-- Can a value be taken apart into data, to a depth of at most `bound`? -/
def takesApart (store : Store) (opened : List Ref) : Nat → Value → Bool
  | 0, _ => true
  | bound + 1, value =>
    match value with
    | .tuple items _ => items.all (store.takesApart opened bound)
    | .object id place =>
      if opened.contains place then false
      else
        let takesApart := store.takesApart (place :: opened) bound
        match store.object? place with
        | some (.list items) => items.all takesApart
        | some (.dict entries) =>
          entries.all fun (key, value) => store.keepsKey bound key && takesApart value
        | _ =>
          if id.isComponent then takesApart (store.fieldValue value "value")
          else store.copies opened bound value
    | value => store.copies opened bound value

/-- A value as plain data, to a depth of at most `bound`. -/
def plainWithin (store : Store) : Nat → Value → Plain
  | 0, value => .text (store.textOf value)
  | bound + 1, value =>
    let plain := store.plainWithin bound
    match value with
    | .absent => .absent
    | .bool value => .bool value
    | .int value _ => .int value
    | .float value _ => .float value
    | .text value _ => .text value
    | .tuple items _ => .list (items.map plain)
    | .object _ place =>
      match store.object? place with
      | some (.list items) => .list (items.map plain)
      | some (.dict entries) =>
        .table (Entries.putAll [] (entries.map fun (key, value) => (store.textOf key, plain value)))
      | _ => .text (store.textOf value)
    | value => .text (store.textOf value)

/-- The context of a report as plain data. -/
def plainContext (store : Store) (context : List (Value × Value)) : Plain :=
  .table (Entries.putAll []
    (context.map fun (key, value) => (store.textOf key, store.plainWithin store.depthBound value)))

/-- A report as plain data. -/
def serialise (store : Store) (report : Report) : Except Fault Plain :=
  let bound := store.depthBound
  if report.context.all fun (key, value) =>
    store.keepsKey bound key && store.takesApart [] bound value
  then
    .ok (.table
      [("stage", .text report.stage), ("error_type", .text report.kind),
        ("message", .text report.message),
        ("span", (report.span.map Plain.ofSpan).getD .absent),
        ("context", store.plainContext report.context)])
  else .error (.misuse .notSerialisable)

end Store

namespace Notice

/-- How urgent a notice is. -/
def level : Notice → Level
  | generated _ _ _ _ => .debug
  | replaced _ _ _ => .warning
  | failed _ => .debug

/-- The words of a notice. -/
def text (store : Store) : Notice → String
  | generated record qualname mode extension =>
    "Generated " ++ record ++ " for " ++ qualname ++ " (" ++ mode.name ++ " mode, trait " ++
      extension.getD "None" ++ ")"
  | replaced hostType method extension =>
    "Replacing " ++ hostType ++ "." ++ method ++ " from " ++ extension
  | failed report =>
    "Generation failed: " ++ match store.serialise report with
      | .ok plain => plain.spelling
      | .error _ => report.text

end Notice

end Deferred
