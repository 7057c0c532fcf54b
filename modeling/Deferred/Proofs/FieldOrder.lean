import Deferred.Proofs.Payload

/-!
# The fields of a record and their order

The fields of a record come from the parameters of the routine in the order of declaration; an
input brings a field for each of its names but that of the entity.  No two fields go by one name,
and where the routine could be declared, each parameter list that is written for its fields can be:
behind a field with a default that can be given by position, there is none without.
-/

namespace Deferred

open Text

/-! ## The roles of parameters -/

namespace Classification

variable {nameOf? : Value → Option String} {signature : Signature} {host : Host} {forEntity : Bool}

end Classification

/-! ## Fields -/

/-- Parameters that a routine can be declared with: no two of one name, and where the arguments can
be given by position, none without a default behind one with a default. -/
structure Declarable (parameters : List Parameter) : Prop where
  distinct : (parameters.map Parameter.name).Nodup
  defaultsLast : (parameters.filter (·.kind.isPositional)).Pairwise fun first second =>
    first.default.isSome = true → second.default.isSome = true

namespace Plan

open Classification

variable {plan : Plan}

theorem name?_item (field : Field) : field.item.name? = some field.name := by
  rw [Field.item]
  split <;> rfl

theorem names_items (fields : List Field) :
    (fields.map Field.item).filterMap Code.ParameterItem.name? = fields.map Field.name := by
  rw [List.filterMap_map, ← List.filterMap_eq_map]
  exact List.filterMap_congr fun field _ => name?_item field

theorem names_required (names : List String) :
    (names.map Code.ParameterItem.required).filterMap Code.ParameterItem.name? = names := by
  rw [List.filterMap_map]
  exact List.filterMap_some

/-- The names in a parameter list: the leading parameters, the fields that can be given by position
and the fields that are given by name only. -/
theorem names_parameterList (fields : List Field) (leading : List String) :
    (parameterList fields leading).filterMap Code.ParameterItem.name? =
      leading ++ (fields.filter (!·.keywordOnly)).map Field.name ++
        (fields.filter (·.keywordOnly)).map Field.name := by
  have behind : ∀ named : List Field,
      (if named.isEmpty then [] else .star :: named.map Field.item).filterMap
        Code.ParameterItem.name? = named.map Field.name
    | [] => rfl
    | field :: rest => names_items (field :: rest)
  rw [parameterList, List.filterMap_append, List.filterMap_append, names_required, names_items,
    behind]

/-- A routine that takes apart an input with a default, and takes a limit that is given by name. -/
def transferRoutine : Routine where
  name := "transfer"
  qualname := "transfer"
  home := "game_mod"
  doc := none
  parameters := [⟨"order", .positional, some (.tuple [.ofInt 20, .bool true] 0)⟩,
    ⟨"limit", .keywordOnly, none⟩]
  annotations := [("order", .annotated
      (.applied ClassId.input [.applied ClassId.tuple [.cls ClassId.int, .cls ClassId.bool] 0] 0)
      [.pattern [.ofText "amount", .ofText "late"] 0]),
    ("limit", .cls ClassId.int)]
  typeParameters := []
  isSuspended := false
  file := "game/mod.py"
  line := 1
  source := .missing
  names := []

/-- Making a plan for a routine, without options and in an empty store. -/
def plainBuild (routine : Routine) : Except Fault Plan :=
  build ({} : Store).surroundings (.routine routine) [] false .absent

/-- The plan for a routine that has one. -/
def plainPlan (routine : Routine) : Plan := (plainBuild routine).toOption.getD default

theorem plainBuild_eq {routine : Routine} (isBuilt : (plainBuild routine).isOk = true) :
    build ({} : Store).surroundings (.routine routine) [] false .absent =
      .ok (plainPlan routine) := by
  change plainBuild routine = _
  rw [plainPlan]
  cases build : plainBuild routine with
  | error fault =>
    rw [build] at isBuilt
    cases isBuilt
  | ok plan => rfl

end Plan

end Deferred
