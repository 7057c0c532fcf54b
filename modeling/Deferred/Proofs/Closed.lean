import Deferred.Proofs.FieldOrder
import Deferred.Proofs.Printing
import Deferred.Proofs.Renaming

/-!
# Closed code

Generated code looks up names that are kept for it; each of them must be bound beside the code, be a
parameter or a variable of the function around it, or be defined by the text itself, and before the
place where the top of the text looks it up.  The code of every accepted definition is closed in
this sense, among the bindings of its fragments, as it is written.  It is run in the normal spelling
of its names, and the bindings keep theirs: so the code that is run is closed where all names are in
their normal spelling, and for a field of another spelling it need not be.
-/

namespace Deferred

open Text

namespace Code

/-! ## Names that code looks up -/

namespace Expr

mutual

/-- The names that an expression looks up around itself. -/
@[simp] def names : Expr → List String
  | .name id => [id]
  | .member target _ => names target
  | .text _ => []
  | .call function positional keywords =>
    names function ++ namesAll positional ++ namesKeywords keywords
  | .tuple items => namesAll items
  | .table entries => namesEntries entries
  | .subscript head items => names head ++ namesAll items
  | .closure parameters body => (names body).filter fun name => !parameters.contains name

@[simp] def namesAll : List Expr → List String
  | [] => []
  | expr :: rest => names expr ++ namesAll rest

@[simp] def namesKeywords : List (String × Expr) → List String
  | [] => []
  | (_, expr) :: rest => names expr ++ namesKeywords rest

@[simp] def namesEntries : List (Expr × Expr) → List String
  | [] => []
  | (key, value) :: rest => names key ++ names value ++ namesEntries rest

end

/-- Every reserved name that an expression looks up is known. -/
def Knows (known : String → Prop) (expr : Expr) : Prop :=
  ∀ name ∈ expr.names, isReserved name = true → known name

variable {known : String → Prop}

theorem forall_namesAll {holds : String → Prop} {exprs : List Expr} :
    (∀ name ∈ namesAll exprs, holds name) ↔ ∀ expr ∈ exprs, ∀ name ∈ expr.names, holds name := by
  induction exprs with
  | nil => simp [namesAll]
  | cons expr rest ih => rw [namesAll, List.forall_mem_append, ih, List.forall_mem_cons]

theorem forall_namesKeywords {holds : String → Prop} {keywords : List (String × Expr)} :
    (∀ name ∈ namesKeywords keywords, holds name) ↔
      ∀ keyword ∈ keywords, ∀ name ∈ keyword.2.names, holds name := by
  induction keywords with
  | nil => simp [namesKeywords]
  | cons keyword rest ih => rw [namesKeywords, List.forall_mem_append, ih, List.forall_mem_cons]

theorem forall_namesEntries {holds : String → Prop} {entries : List (Expr × Expr)} :
    (∀ name ∈ namesEntries entries, holds name) ↔ ∀ entry ∈ entries,
      (∀ name ∈ entry.1.names, holds name) ∧ ∀ name ∈ entry.2.names, holds name := by
  induction entries with
  | nil => simp [namesEntries]
  | cons entry rest ih =>
    rw [namesEntries, List.forall_mem_append, List.forall_mem_append, ih, List.forall_mem_cons]

theorem Knows.imp {other : String → Prop} {expr : Expr} (knows : expr.Knows known)
    (more : ∀ name, known name → other name) : expr.Knows other :=
  fun name isName isReserved => more name (knows name isName isReserved)

@[simp] theorem knows_name {id : String} :
    (Expr.name id).Knows known ↔ (isReserved id = true → known id) := by
  simp [Knows, names]

@[simp] theorem knows_member {target : Expr} {part : String} :
    (Expr.member target part).Knows known ↔ target.Knows known := by
  simp [Knows, names]

@[simp] theorem knows_text {value : String} : (Expr.text value).Knows known := by
  simp [Knows, names]

@[simp] theorem knows_call {function : Expr} {positional : List Expr}
    {keywords : List (String × Expr)} : (Expr.call function positional keywords).Knows known ↔
      function.Knows known ∧ (∀ expr ∈ positional, expr.Knows known) ∧
        ∀ keyword ∈ keywords, keyword.2.Knows known := by
  simp only [Knows, names, List.forall_mem_append, forall_namesAll, forall_namesKeywords, and_assoc]

@[simp] theorem knows_tuple {items : List Expr} :
    (Expr.tuple items).Knows known ↔ ∀ item ∈ items, item.Knows known := by
  simp only [Knows, names, forall_namesAll]

@[simp] theorem knows_table {entries : List (Expr × Expr)} : (Expr.table entries).Knows known ↔
    ∀ entry ∈ entries, entry.1.Knows known ∧ entry.2.Knows known := by
  simp only [Knows, names, forall_namesEntries]

@[simp] theorem knows_subscript {head : Expr} {items : List Expr} :
    (Expr.subscript head items).Knows known ↔
      head.Knows known ∧ ∀ item ∈ items, item.Knows known := by
  simp only [Knows, names, List.forall_mem_append, forall_namesAll]

@[simp] theorem knows_closure {parameters : List String} {body : Expr} :
    (Expr.closure parameters body).Knows known ↔
      body.Knows fun name => name ∈ parameters ∨ known name := by
  simp only [Knows, names, List.mem_filter, Bool.not_eq_true', List.contains_eq_mem,
    decide_eq_false_iff_not]
  grind

@[simp] theorem knows_apply {function : Expr} {arguments : List Expr} :
    (function.apply arguments).Knows known ↔
      function.Knows known ∧ ∀ argument ∈ arguments, argument.Knows known := by
  simp [Expr.apply]

@[simp] theorem knows_send {target : Expr} {method : String} {arguments : List Expr} :
    (target.send method arguments).Knows known ↔
      target.Knows known ∧ ∀ argument ∈ arguments, argument.Knows known := by
  simp [Expr.send]

end Expr

/-- The name of the default of an item of a parameter list. -/
def ParameterItem.default? : ParameterItem → Option String
  | optional _ default => some default
  | _ => none

namespace Statement

mutual

/-- The names that a statement of a function looks up; in a function, only these statements do
anything. -/
def looked : Statement → List String
  | .expression value => value.names
  | .assign _ value => value.names
  | .returns value => value.names
  | .raises value => value.names
  | .choose branches => lookedInBranches branches
  | _ => []

def lookedAll : List Statement → List String
  | [] => []
  | statement :: rest => looked statement ++ lookedAll rest

def lookedInBranches : List (Expr × List Statement) → List String
  | [] => []
  | (condition, body) :: rest => condition.names ++ lookedAll body ++ lookedInBranches rest

end

mutual

/-- The variables that a statement of a function binds. -/
def bound : Statement → List String
  | .assign name _ => [name]
  | .choose branches => boundInBranches branches
  | _ => []

def boundAll : List Statement → List String
  | [] => []
  | statement :: rest => bound statement ++ boundAll rest

def boundInBranches : List (Expr × List Statement) → List String
  | [] => []
  | (_, body) :: rest => boundAll body ++ boundInBranches rest

end

/-- The names that a function with some parameters and a body looks up around itself. -/
def lookedByFunction (parameters : List ParameterItem) (body : List Statement) : List String :=
  (lookedAll body).filter fun name =>
    !(parameters.filterMap ParameterItem.name? ++ boundAll body).contains name

/-- The names that a statement in the body of a class looks up at once. -/
def lookedInClass : Statement → List String
  | .expression value => value.names
  | .assign _ value => value.names
  | .field _ hint value => hint.names ++ (value.map Expr.names).getD []
  | .define decorators _ parameters _ =>
    Expr.namesAll decorators ++ parameters.filterMap ParameterItem.default?
  | _ => []

/-- The names that a statement at the top of a text looks up at once. -/
def lookedNow : Statement → List String
  | .expression value => value.names
  | .assign _ value => value.names
  | .define decorators _ parameters _ =>
    Expr.namesAll decorators ++ parameters.filterMap ParameterItem.default?
  | .declare decorators _ bases body =>
    Expr.namesAll decorators ++ Expr.namesAll bases ++ body.flatMap lookedInClass
  | _ => []

/-- The names that the functions made by a statement at the top of a text look up when they are
called. -/
def lookedLater : Statement → List String
  | .define _ _ parameters body => lookedByFunction parameters body
  | .declare _ _ _ body => body.flatMap fun
    | .define _ _ parameters body => lookedByFunction parameters body
    | _ => []
  | _ => []

/-- The names that a statement at the top of a text defines. -/
def defined : Statement → List String
  | .assign name _ => [name]
  | .define _ name _ _ => [name]
  | .declare _ name _ _ => [name]
  | _ => []

end Statement

/-- Every reserved name that a statement of a function looks up is known. -/
def Statement.Knows (known : String → Prop) (statement : Statement) : Prop :=
  ∀ name ∈ statement.looked, isReserved name = true → known name

namespace Statement

variable {known : String → Prop}

theorem forall_lookedAll {holds : String → Prop} {statements : List Statement} :
    (∀ name ∈ lookedAll statements, holds name) ↔
      ∀ statement ∈ statements, ∀ name ∈ statement.looked, holds name := by
  induction statements with
  | nil => simp [lookedAll]
  | cons statement rest ih => rw [lookedAll, List.forall_mem_append, ih, List.forall_mem_cons]

theorem forall_lookedInBranches {holds : String → Prop}
    {branches : List (Expr × List Statement)} :
    (∀ name ∈ lookedInBranches branches, holds name) ↔ ∀ branch ∈ branches,
      (∀ name ∈ branch.1.names, holds name) ∧
        ∀ statement ∈ branch.2, ∀ name ∈ statement.looked, holds name := by
  induction branches with
  | nil => simp [lookedInBranches]
  | cons branch rest ih =>
    rw [lookedInBranches, List.forall_mem_append, List.forall_mem_append, forall_lookedAll, ih,
      List.forall_mem_cons]

@[simp] theorem knows_expression {value : Expr} :
    (Statement.expression value).Knows known ↔ value.Knows known := Iff.rfl

@[simp] theorem knows_assign {name : String} {value : Expr} :
    (Statement.assign name value).Knows known ↔ value.Knows known := Iff.rfl

@[simp] theorem knows_returns {value : Expr} :
    (Statement.returns value).Knows known ↔ value.Knows known := Iff.rfl

@[simp] theorem knows_raises {value : Expr} :
    (Statement.raises value).Knows known ↔ value.Knows known := Iff.rfl

@[simp] theorem knows_doc {text : String} : (Statement.doc text).Knows known := by
  simp [Knows, looked]

@[simp] theorem knows_choose {branches : List (Expr × List Statement)} :
    (Statement.choose branches).Knows known ↔ ∀ branch ∈ branches, branch.1.Knows known ∧
      ∀ statement ∈ branch.2, statement.Knows known := by
  simp only [Knows, looked, forall_lookedInBranches]
  rfl

/-- A function knows what its body looks up, if its body knows it among its parameters and
variables. -/
theorem forall_lookedByFunction {parameters : List ParameterItem} {body : List Statement} :
    (∀ name ∈ lookedByFunction parameters body, isReserved name = true → known name) ↔
      ∀ statement ∈ body, statement.Knows fun name =>
        name ∈ parameters.filterMap ParameterItem.name? ∨ name ∈ boundAll body ∨ known name := by
  unfold Knows
  rw [← forall_lookedAll]
  simp only [lookedByFunction, List.mem_filter, Bool.not_eq_true', List.contains_eq_mem,
    decide_eq_false_iff_not, List.mem_append, not_or]
  grind

end Statement

/-- What the top of a text looks up is bound beside it, or defined above. -/
def DefinedAbove (known : List String) : List Statement → Prop
  | [] => True
  | statement :: rest =>
    (∀ name ∈ statement.lookedNow, isReserved name = true → name ∈ known) ∧
      DefinedAbove (known ++ statement.defined) rest

/-- Code is closed among some names: every reserved name that it looks up is one of these, a
parameter or a variable of the function around it, or defined by the code itself; what the code
looks up while it is run from the top, it has defined above. -/
structure Closed (known : List String) (code : List Statement) : Prop where
  now : DefinedAbove known code
  later : ∀ statement ∈ code, ∀ name ∈ statement.lookedLater, isReserved name = true →
    name ∈ known ++ code.flatMap Statement.defined

theorem DefinedAbove.mono {known more : List String} {code : List Statement}
    (above : DefinedAbove known code) (within : ∀ name ∈ known, name ∈ more) :
    DefinedAbove more code := by
  induction code generalizing known more with
  | nil => trivial
  | cons statement rest ih =>
    refine ⟨fun name isName isReserved => within name (above.1 name isName isReserved),
      ih above.2 fun name isIn => ?_⟩
    rcases List.mem_append.mp isIn with isKnown | isDefined
    · exact List.mem_append_left _ (within name isKnown)
    · exact List.mem_append_right _ isDefined

theorem definedAbove_append {known : List String} {first second : List Statement} :
    DefinedAbove known (first ++ second) ↔ DefinedAbove known first ∧
      DefinedAbove (known ++ first.flatMap Statement.defined) second := by
  induction first generalizing known with
  | nil => simp [DefinedAbove]
  | cons statement rest ih =>
    simp [DefinedAbove, ih, and_assoc]

end Code

/-! ## The call of the routine -/

namespace Plan

open Code

variable {plan : Plan} {known : String → Prop} {reach : Reach}

/-- Names that generated code looks up and does not keep for itself. -/
theorem isReserved_plain : isReserved "self" = false ∧ isReserved "world" = false ∧
    isReserved "entity" = false ∧ isReserved "outcome" = false ∧ isReserved "isinstance" = false ∧
      isReserved "True" = false ∧ isReserved "None" = false := by decide

/-- Code reaches the world, the entity and the values of fields through names that are known. -/
structure Reaches (known : String → Prop) (reach : Reach) : Prop where
  world : reach.world.Knows known
  entity : reach.entity.Knows known
  value : ∀ name, isReserved name = false → (reach.value name).Knows known

theorem reaches_insideRecord : Reaches known insideRecord := by
  constructor <;> simp [insideRecord, isReserved_plain]

theorem knows_element (reaches : Reaches known reach) {piped : PipedInput} {start : Nat}
    {names : List String} (free : ∀ name ∈ names, isReserved name = false) :
    ∀ expr ∈ element piped reach start names, expr.Knows known := by
  induction names generalizing start with
  | nil => simp [element]
  | cons name rest ih =>
    obtain ⟨isFree, free⟩ := List.forall_mem_cons.mp free
    rw [element, List.forall_mem_cons]
    refine ⟨?_, ih free⟩
    split
    · exact reaches.entity
    · exact reaches.value name isFree

theorem knows_payload (reaches : Reaches known reach) {piped : PipedInput}
    (free : ∀ name ∈ piped.names, isReserved name = false) :
    (payload piped reach).Knows known := by
  have elements : ∀ expr ∈ element piped reach 0 piped.names, expr.Knows known :=
    knows_element reaches free
  rw [payload]
  split
  · refine reaches.value _ ?_
    cases names : piped.names with
    | nil => rfl
    | cons name rest => exact free name (by simp [names])
  · cases isElement : element piped reach 0 piped.names with
    | nil => simp [isReserved_plain]
    | cons expr rest => exact elements expr (isElement ▸ List.mem_cons_self)
  · exact Expr.knows_tuple.mpr elements

theorem knows_argument (reaches : Reaches known reach) {entry : Parameter × Role}
    (isFree : isReserved entry.1.name = false) : (argument reach entry).Knows known := by
  obtain ⟨parameter, role⟩ := entry
  cases role with
  | context => exact reaches.world
  | entity => exact reaches.entity
  | _ => exact reaches.value _ isFree

theorem Accepted.free_of_role (accepted : plan.Accepted) {entry : Parameter × Role}
    (isRole : entry ∈ plan.classification.roles) : isReserved entry.1.name = false :=
  (accepted.sorts.named entry.1 (accepted.mem_parameters isRole)).2.2

/-- Running the routine looks up nothing that it does not use. -/
theorem knows_bodyCall (accepted : plan.Accepted) (reaches : Reaches known reach)
    (uses : ∀ use ∈ plan.bodyUses, known (reserved use.1)) :
    (plan.bodyCall reach).Knows known := by
  have isBody : (Expr.name bodyName).Knows known :=
    Expr.knows_name.mpr fun _ => uses ("body", plan.body) (by simp [bodyUses])
  have arguments : ∀ entry ∈ plan.classification.roles, (argument reach entry).Knows known :=
    fun entry isRole => knows_argument reaches (accepted.free_of_role isRole)
  cases isMode : plan.mode with
  | exclusive =>
    rw [bodyCall, isMode]
    refine Expr.knows_call.mpr ⟨isBody, ?_, ?_⟩
    · intro expr isIn
      obtain ⟨entry, isEntry, rfl⟩ := List.mem_map.mp isIn
      exact arguments entry (List.mem_filter.mp isEntry).1
    · intro keyword isIn
      obtain ⟨entry, isEntry, rfl⟩ := List.mem_map.mp isIn
      exact arguments entry (List.mem_filter.mp isEntry).1
  | scheduled =>
    have routine : (plan.boundRoutine reach).Knows known := by
      rw [boundRoutine]
      split
      · exact isBody
      · rename_i hasKeywords
        have isPartial : ("partial", .ofClass ClassId.partialCall) ∈ plan.bodyUses := by
          have isBound : plan.classification.roles.any (·.2.isBoundByName) = true := by
            rw [List.any_eq_true]
            by_contra none
            refine hasKeywords ?_
            rw [boundKeywords, List.isEmpty_map, List.isEmpty_iff, List.filter_eq_nil_iff]
            exact fun entry isIn isBound => none ⟨entry, isIn, isBound⟩
          simp [bodyUses, isMode, isBound]
        refine Expr.knows_call.mpr ⟨Expr.knows_name.mpr fun _ => uses _ isPartial, ?_, ?_⟩
        · simpa using isBody
        · intro keyword isIn
          obtain ⟨entry, isEntry, rfl⟩ := List.mem_map.mp isIn
          exact arguments entry (List.mem_filter.mp isEntry).1
    simp only [bodyCall, isMode, scheduledCall]
    cases isPiped : plan.classification.piped with
    | none => simp [reaches.world, routine]
    | some piped =>
      have input : (payload piped reach).Knows known := by
        refine knows_payload reaches fun name isName => ?_
        have isInput := (accepted.sorts.piped piped.parameter).mpr ⟨piped, isPiped, rfl⟩
        rcases (accepted.reads isPiped).names.free name isName with rfl | ⟨-, isFree⟩
        · exact accepted.free_of_role isInput
        · exact isFree
      simp [reaches.world, routine, input]

/-! ## Defaults -/

theorem mem_default?_item {field : Field} {name : String}
    (isDefault : field.item.default? = some name) :
    ∃ use ∈ field.defaultUse, name = reserved use.1 := by
  rw [Field.item] at isDefault
  split at isDefault
  · rename_i isSome
    obtain ⟨value, isValue⟩ := Option.isSome_iff_exists.mp isSome
    exact ⟨(Field.defaultName field.name, value), by simp [Field.defaultUse, isValue],
      (Option.some.inj isDefault).symm⟩
  · cases isDefault

/-- A parameter list looks up the defaults that it uses. -/
theorem mem_defaults_parameterList {fields : List Field} {leading : List String} {name : String}
    (isDefault : name ∈ (parameterList fields leading).filterMap ParameterItem.default?) :
    ∃ use ∈ parameterUses fields, name = reserved use.1 := by
  obtain ⟨item, isItem, isDefault⟩ := List.mem_filterMap.mp isDefault
  have ofField : ∀ some : List Field, item ∈ some.map Field.item →
      ∃ use ∈ some.flatMap Field.defaultUse, name = reserved use.1 := by
    intro some isIn
    obtain ⟨field, isField, rfl⟩ := List.mem_map.mp isIn
    obtain ⟨use, isUse, same⟩ := mem_default?_item isDefault
    exact ⟨use, List.mem_flatMap.mpr ⟨field, isField, isUse⟩, same⟩
  simp only [parameterList, List.mem_append] at isItem
  rcases isItem with (isLeading | isPositional) | isNamed
  · obtain ⟨other, -, rfl⟩ := List.mem_map.mp isLeading
    cases isDefault
  · obtain ⟨use, isUse, same⟩ := ofField _ isPositional
    exact ⟨use, List.mem_append_left _ isUse, same⟩
  · split at isNamed
    · cases isNamed
    · rcases List.mem_cons.mp isNamed with rfl | isNamed
      · cases isDefault
      · obtain ⟨use, isUse, same⟩ := ofField _ isNamed
        exact ⟨use, List.mem_append_right _ isUse, same⟩

theorem mem_defaults_declaredItems {starred : Bool} {parameters : List Parameter} {name : String}
    (isDefault : name ∈ (declaredItems starred parameters).filterMap ParameterItem.default?) :
    ∃ use ∈ declaredUses parameters, name = reserved use.1 := by
  induction parameters generalizing starred with
  | nil => cases isDefault
  | cons parameter rest ih =>
    obtain ⟨item, isItem, isDefault⟩ := List.mem_filterMap.mp isDefault
    have later : ∀ starred, item ∈ declaredItems starred rest →
        ∃ use ∈ declaredUses (parameter :: rest), name = reserved use.1 := by
      intro starred isLater
      obtain ⟨use, isUse, same⟩ := ih (List.mem_filterMap.mpr ⟨item, isLater, isDefault⟩)
      exact ⟨use, (List.sublist_cons_self parameter rest).filterMap _ |>.subset isUse, same⟩
    simp only [declaredItems, List.mem_append, List.mem_cons] at isItem
    rcases isItem with (isMark | rfl | isMark) | isLater
    · split at isMark
      · obtain rfl := List.mem_singleton.mp isMark
        cases isDefault
      · cases isMark
    · rw [declaredItem] at isDefault
      split at isDefault
      · rename_i isSome
        obtain ⟨value, isValue⟩ := Option.isSome_iff_exists.mp isSome
        exact ⟨(Field.defaultName parameter.name, value), by simp [declaredUses, isValue],
          (Option.some.inj isDefault).symm⟩
      · cases isDefault
    · split at isMark
      · obtain rfl := List.mem_singleton.mp isMark
        cases isDefault
      · cases isMark
    · exact later _ isLater

/-! ## The code of the record -/

section Record

variable {names : List String}

/-- The declaration of a field looks up what it uses. -/
theorem known_fieldStatement {field : Field}
    (uses : ∀ use ∈ fieldUses field, known (reserved use.1)) :
    ∀ name ∈ (fieldStatement field).lookedInClass, isReserved name = true → known name := by
  have isHint : known (reserved ("ann_" ++ field.name)) :=
    uses ("ann_" ++ field.name, field.hint) (by simp [fieldUses])
  have options : ∀ keyword ∈ fieldOptions field, keyword.2.Knows known := by
    intro keyword isKeyword
    rw [fieldOptions, List.mem_append] at isKeyword
    rcases isKeyword with isDefault | isNamed
    · cases hasDefault : field.default with
      | none => simp [hasDefault] at isDefault
      | some value =>
        have isKnown : (Expr.name (reserved (Field.defaultName field.name))).Knows known :=
          Expr.knows_name.mpr fun _ => uses (Field.defaultName field.name, value)
            (by simp [fieldUses, Field.defaultUse, hasDefault])
        simp only [hasDefault] at isDefault
        split at isDefault
        · obtain rfl := List.mem_singleton.mp isDefault
          exact Expr.knows_closure.mpr (isKnown.imp fun _ => .inr)
        · obtain rfl := List.mem_singleton.mp isDefault
          exact isKnown
    · split at isNamed
      · obtain rfl := List.mem_singleton.mp isNamed
        simp [isReserved_plain]
      · cases isNamed
  have content : ∀ expr, (if (fieldOptions field).isEmpty then none
      else some (Expr.call (.name (reserved "field")) [] (fieldOptions field))) = some expr →
        expr.Knows known := by
    intro expr isContent
    split at isContent
    · cases isContent
    · rename_i hasOptions
      cases isContent
      refine Expr.knows_call.mpr ⟨Expr.knows_name.mpr fun _ => ?_, by simp, options⟩
      exact uses ("field", .builtin "field") (by simp [fieldUses, hasOptions])
  intro name isName isReserved
  simp only [fieldStatement, Statement.lookedInClass, Expr.names, List.mem_append,
    List.mem_singleton] at isName
  rcases isName with rfl | isName
  · exact isHint
  · obtain ⟨expr, isContent, isName⟩ : ∃ expr, (if (fieldOptions field).isEmpty then none
        else some (Expr.call (.name (reserved "field")) [] (fieldOptions field))) = some expr ∧
          name ∈ expr.names := by
      split at isName
      · cases isName
      · rename_i hasOptions
        exact ⟨_, by rw [if_neg hasOptions], isName⟩
    exact content expr isContent name isName isReserved

theorem mem_typeParameterUses_recordUses {use : Use}
    (isUse : use ∈ typeParameterUses 0 plan.signature.generics) : use ∈ plan.recordUses := by
  have nonempty : (typeParameterUses 0 plan.signature.generics).isEmpty = false := by
    rw [List.isEmpty_eq_false_iff]
    exact List.ne_nil_of_mem isUse
  simp [recordUses, nonempty, isUse]

theorem knows_recordBases (known : String → Prop)
    (uses : ∀ use ∈ plan.recordUses, known (reserved use.1)) :
    ∀ base ∈ plan.recordBases, base.Knows known := by
  intro base isBase
  simp only [recordBases, List.mem_cons] at isBase
  rcases isBase with rfl | isGeneric
  · exact Expr.knows_name.mpr fun _ =>
      uses ("base", plan.host.commandBase plan.forEntity) (by simp [recordUses])
  · split at isGeneric
    · cases isGeneric
    · rename_i nonempty
      obtain rfl := List.mem_singleton.mp isGeneric
      refine Expr.knows_subscript.mpr ⟨Expr.knows_name.mpr fun _ =>
        uses ("Generic", .ofClass ClassId.generic) (by simp [recordUses, nonempty]), ?_⟩
      intro item isItem
      obtain ⟨use, isUse, rfl⟩ := List.mem_map.mp isItem
      exact Expr.knows_name.mpr fun _ => uses use (mem_typeParameterUses_recordUses isUse)

theorem eq_doc_of_mem {statement : Statement} (isDoc : statement ∈ plan.docStatements) :
    ∃ text, statement = .doc text := by
  unfold docStatements at isDoc
  split at isDoc
  · split at isDoc
    · cases isDoc
    · exact ⟨_, List.mem_singleton.mp isDoc⟩
  · cases isDoc

/-- The body of the record looks up at once what the record uses. -/
theorem known_recordBody (known : String → Prop)
    (uses : ∀ use ∈ plan.recordUses, known (reserved use.1)) :
    ∀ statement ∈ plan.recordBody, ∀ name ∈ statement.lookedInClass, isReserved name = true →
      known name := by
  intro statement isStatement
  simp only [recordBody, List.mem_append] at isStatement
  rcases isStatement with ((isDoc | isDeclared) | isBlank) | isApply
  · obtain ⟨text, rfl⟩ := eq_doc_of_mem isDoc
    simp [Statement.lookedInClass]
  · obtain ⟨field, isField, rfl⟩ := List.mem_map.mp isDeclared
    refine known_fieldStatement fun use isUse => uses use ?_
    simp only [recordUses, List.mem_append, List.mem_cons, List.mem_flatMap]
    exact .inl (.inr (.inr ⟨field, isField, isUse⟩))
  · split at isBlank
    · cases isBlank
    · obtain rfl := List.mem_singleton.mp isBlank
      simp [Statement.lookedInClass]
  · obtain rfl := List.mem_singleton.mp isApply
    cases isEntity : plan.forEntity <;>
      simp [Statement.lookedInClass, applyParameters, isEntity, ParameterItem.default?,
        Expr.namesAll]

/-- The top of the code of the record looks up what the record uses. -/
theorem definedAbove_recordCode (accepted : plan.Accepted)
    (uses : ∀ use ∈ plan.recordUses, reserved use.1 ∈ names) :
    DefinedAbove names plan.recordCode := by
  have isDataclass := uses ("dataclass", .builtin "dataclass") (by simp [recordUses])
  refine ⟨?_, ?_, ?_, trivial⟩
  · simp only [Statement.lookedNow, List.forall_mem_append, Expr.forall_namesAll]
    refine ⟨⟨?_, knows_recordBases (· ∈ names) uses⟩, ?_⟩
    · simpa [Expr.names] using isDataclass
    · intro name isName
      obtain ⟨statement, isStatement, isName⟩ := List.mem_flatMap.mp isName
      exact known_recordBody (· ∈ names) uses statement isStatement name isName
  · simp [Statement.lookedNow]
  · simp [Statement.lookedNow, Expr.names, accepted.recordName]

/-- Applying a record looks up what running the routine uses, and the function that hands an outcome
on if there is one. -/
theorem later_recordCode (accepted : plan.Accepted)
    (uses : ∀ use ∈ plan.bodyUses, known (reserved use.1))
    (route : plan.isRouted = true → known routeName) :
    ∀ statement ∈ plan.recordCode, ∀ name ∈ statement.lookedLater, isReserved name = true →
      known name := by
  have call := knows_bodyCall accepted reaches_insideRecord uses
  have world : (Expr.name "world").Knows known := by simp [isReserved_plain]
  have applied : (plan.routed (.name "world") (plan.bodyCall insideRecord)).Knows known := by
    rw [routed]
    split
    · rename_i isRouted
      simp [call, world, route isRouted]
    · exact call
  have body : ∀ statement ∈ plan.applyBody, statement.Knows known := by
    rw [applyBody, List.forall_mem_cons]
    refine ⟨Statement.knows_expression.mpr applied, ?_⟩
    split <;> simp [world]
  simp only [recordCode, List.forall_mem_cons, Statement.lookedLater, List.not_mem_nil,
    IsEmpty.forall_iff, implies_true, and_true]
  intro name isName isReserved
  obtain ⟨statement, isStatement, isName⟩ := List.mem_flatMap.mp isName
  simp only [recordBody, List.mem_append] at isStatement
  rcases isStatement with ((isDoc | isDeclared) | isBlank) | isApply
  · obtain ⟨text, rfl⟩ := eq_doc_of_mem isDoc
    cases isName
  · obtain ⟨field, -, rfl⟩ := List.mem_map.mp isDeclared
    cases isName
  · split at isBlank
    · cases isBlank
    · obtain rfl := List.mem_singleton.mp isBlank
      cases isName
  · obtain rfl := List.mem_singleton.mp isApply
    refine Statement.forall_lookedByFunction.mpr (fun statement isIn => ?_) name isName isReserved
    exact fun other isOther isReserved => .inr (.inr (body statement isIn other isOther isReserved))

end Record

/-! ## The code of the extension -/

section Extension

variable {names : List String}

/-- Making a record looks up its class. -/
theorem knows_construct (accepted : plan.Accepted) (record : known recordAlias) :
    (construct plan.fields).Knows known := by
  refine Expr.knows_call.mpr ⟨Expr.knows_name.mpr fun _ => record, by simp, ?_⟩
  intro keyword isKeyword
  obtain ⟨field, isField, rfl⟩ := List.mem_map.mp isKeyword
  refine Expr.knows_name.mpr fun isReserved => ?_
  simp [(accepted.free isField).2.1] at isReserved

theorem known_defaults (known : String → Prop) (leading : List String)
    (uses : ∀ use ∈ parameterUses plan.fields, known (reserved use.1)) :
    ∀ name ∈ (parameterList plan.fields leading).filterMap ParameterItem.default?, known name := by
  intro name isName
  obtain ⟨use, isUse, rfl⟩ := mem_defaults_parameterList isName
  exact uses use isUse

/-- The code of the implementations looks up the method, their receiver types and the defaults. -/
theorem definedAbove_implementations {implementations : List Implementation}
    (isMethod : methodName ∈ names)
    (targets : ∀ implementation ∈ implementations, implementation.target ∈ names)
    (defaults : ∀ name ∈ plan.methodParameters.filterMap ParameterItem.default?, name ∈ names) :
    DefinedAbove names (implementations.flatMap plan.implementationCode) ∧
      (implementations.flatMap plan.implementationCode).flatMap Statement.defined =
        implementations.map Implementation.name := by
  induction implementations with
  | nil => exact ⟨trivial, rfl⟩
  | cons implementation rest ih =>
    obtain ⟨isTarget, targets⟩ := List.forall_mem_cons.mp targets
    obtain ⟨above, defined⟩ := ih targets
    rw [List.flatMap_cons, definedAbove_append, List.flatMap_append, defined]
    refine ⟨⟨⟨?_, by simp [Statement.lookedNow], trivial⟩, above.mono (by simp_all)⟩, rfl⟩
    simp only [Statement.lookedNow, List.forall_mem_append]
    refine ⟨?_, fun name isDefault _ => defaults name isDefault⟩
    simp [Expr.namesAll, Expr.names, Expr.send, Expr.namesKeywords, isMethod, isTarget]

/-- Registering receiver types looks up the extension and the types. -/
theorem definedAbove_registrations {name : String} {implementations : List Implementation}
    (isFree : isReserved name = false) (isMeta : reserved "ABCMeta" ∈ names)
    (targets : ∀ implementation ∈ implementations, implementation.target ∈ names) :
    DefinedAbove names (implementations.map fun implementation =>
      .expression ((Expr.name (reserved "ABCMeta")).send "register"
        [.name name, .name implementation.target])) := by
  induction implementations with
  | nil => trivial
  | cons implementation rest ih =>
    obtain ⟨isTarget, targets⟩ := List.forall_mem_cons.mp targets
    refine ⟨?_, (ih targets).mono fun _ isIn => List.mem_append_left _ isIn⟩
    simp [Statement.lookedNow, Expr.send, Expr.names, Expr.namesAll, Expr.namesKeywords, isFree,
      isMeta, isTarget]

/-- The receiver types of the method are what the extension uses. -/
theorem known_targets (known : String → Prop)
    (uses : ∀ use ∈ plan.extensionUses, known (reserved use.1)) :
    ∀ implementation ∈ plan.implementations, known implementation.target := by
  rw [implementations, List.forall_mem_cons]
  refine ⟨uses ("queued", plan.host.queuedTarget plan.forEntity) (by simp [extensionUses]), ?_⟩
  split
  · simp
  · rename_i isMade
    rw [List.forall_mem_singleton]
    exact uses ("direct", plan.host.directTarget plan.forEntity) (by simp [extensionUses, isMade])

/-- The body of the extension looks up nothing. -/
theorem lookedInClass_extensionBody :
    (plan.docStatements ++ [Statement.pass]).flatMap Statement.lookedInClass = [] := by
  rw [List.flatMap_eq_nil_iff]
  intro statement isIn
  rcases List.mem_append.mp isIn with isDoc | isPass
  · obtain ⟨text, rfl⟩ := eq_doc_of_mem isDoc
    rfl
  · obtain rfl := List.mem_singleton.mp isPass
    rfl

/-- The top of the code of the extension looks up what the extension uses. -/
theorem definedAbove_extensionCode (accepted : plan.Accepted)
    (uses : ∀ use ∈ plan.extensionUses, reserved use.1 ∈ names) :
    DefinedAbove names plan.extensionCode := by
  have defaults : ∀ name ∈ plan.methodParameters.filterMap ParameterItem.default?, name ∈ names :=
    known_defaults (· ∈ names) ["self"] fun use isUse =>
      uses use (by simp [extensionUses, isUse])
  have isDispatch : reserved "singledispatch" ∈ names :=
    uses ("singledispatch", .builtin "singledispatch") (by simp [extensionUses])
  have isABC : reserved "ABC" ∈ names :=
    uses ("ABC", .ofClass ClassId.abstract) (by simp [extensionUses])
  have isSetter : reserved "setattr" ∈ names :=
    uses ("setattr", .builtin "setattr") (by simp [extensionUses])
  have isMeta : reserved "ABCMeta" ∈ names :=
    uses ("ABCMeta", .ofClass ClassId.abstractMeta) (by simp [extensionUses])
  have targets : ∀ implementation ∈ plan.implementations, implementation.target ∈ names :=
    known_targets (· ∈ names) uses
  have isMethod : methodName ∈ names ++ [methodName] := by simp
  obtain ⟨above, defined⟩ := definedAbove_implementations isMethod
    (fun implementation isIn => List.mem_append_left _ (targets implementation isIn))
    (fun name isIn => List.mem_append_left _ (defaults name isIn))
  simp only [extensionCode, definedAbove_append, List.flatMap_append, defined]
  refine ⟨⟨⟨⟨?dispatch, ?implementations⟩, ?declaration⟩, ?registrations⟩, ?published⟩
  case dispatch =>
    refine ⟨?_, by simp [Statement.lookedNow], trivial⟩
    simp only [Statement.lookedNow, List.forall_mem_append]
    exact ⟨by simp [Expr.namesAll, Expr.names, isDispatch], fun name isIn _ => defaults name isIn⟩
  case implementations => simpa [Statement.defined] using above
  case declaration =>
    have table : ∀ entry ∈ plan.implementations.map fun implementation =>
        (Expr.name implementation.target, Expr.name implementation.name),
        (∀ name ∈ entry.1.names, name ∈ names) ∧
          ∀ name ∈ entry.2.names, name ∈ plan.implementations.map Implementation.name := by
      rw [List.forall_mem_map]
      exact fun implementation isIn => by
        simpa [Expr.names, targets implementation isIn] using ⟨implementation, isIn, rfl⟩
    refine ⟨?_, by simp [Statement.lookedNow], ?_, by simp [Statement.lookedNow], ?_, trivial⟩
    · refine Expr.forall_namesEntries.mpr fun entry isEntry => ⟨fun name isName _ => ?_,
        fun name isName _ => ?_⟩
      · exact List.mem_append_left _ ((table entry isEntry).1 name isName)
      · exact List.mem_append_right _
          (List.mem_append_right _ ((table entry isEntry).2 name isName))
    · simp only [Statement.lookedNow, lookedInClass_extensionBody]
      simp [Expr.namesAll, Expr.names, isABC]
    · simp [Statement.lookedNow, Statement.defined, Expr.apply, Expr.names, Expr.namesAll,
        Expr.namesKeywords, isSetter, accepted.extensionName]
  case registrations =>
    exact definedAbove_registrations accepted.extensionName (List.mem_append_left _ isMeta)
      fun implementation isIn => List.mem_append_left _ (targets implementation isIn)
  case published => simp [DefinedAbove, Statement.lookedNow, Expr.names, accepted.extensionName]

theorem knows_chained {known : String → Prop} :
    ∀ statement ∈ plan.chained, statement.Knows known := by
  rw [chained]
  split <;> simp [isReserved_plain]

/-- An implementation of the method looks up the class of the record, and what it binds itself. -/
theorem knows_implementation (accepted : plan.Accepted) (record : known recordAlias) :
    ∀ implementation ∈ plan.implementations, ∀ statement ∈ implementation.body,
      statement.Knows fun name => name ∈ Statement.boundAll implementation.body ∨ known name := by
  have isMade : ∀ {also : String → Prop},
      (construct plan.fields).Knows fun name => also name ∨ known name :=
    (knows_construct accepted record).imp fun _ => .inr
  have isSelf : ∀ {known : String → Prop}, (Expr.name "self").Knows known := by
    simp [isReserved_plain]
  rw [implementations, List.forall_mem_cons]
  constructor
  · rw [queuedBody, List.forall_mem_cons]
    exact ⟨by simp [isMade, isSelf], knows_chained⟩
  · split
    · simp
    · rw [List.forall_mem_singleton]
      intro statement isIn
      rw [directBody] at isIn
      rcases List.mem_append.mp isIn with isFirst | isChained
      · split at isFirst
        · rename_i isEntity
          have bound : ∀ name ∈ [commandName, entityName],
              name ∈ Statement.boundAll plan.directBody := by
            simp [directBody, isEntity, Statement.boundAll, Statement.bound]
          simp only [List.mem_cons, List.not_mem_nil, or_false] at isFirst
          rcases isFirst with rfl | rfl | rfl
          · simp [isMade]
          · simp [isSelf]
          · simp [isSelf, bound]
        · obtain rfl := List.mem_singleton.mp isFirst
          simp [isMade, isSelf]
      · exact knows_chained statement isChained

/-- The functions of the extension look up the class of the record and what the extension uses. -/
theorem later_extensionCode (accepted : plan.Accepted) (record : known recordAlias)
    (isUnimplemented : known (reserved "unimplemented")) :
    ∀ statement ∈ plan.extensionCode, ∀ name ∈ statement.lookedLater, isReserved name = true →
      known name := by
  have unsupported : ∀ statement ∈ plan.unsupportedBody, statement.Knows known := by
    rw [unsupportedBody, List.forall_mem_append, List.forall_mem_singleton]
    refine ⟨fun statement isDoc => ?_, by simp [isUnimplemented, isReserved_plain]⟩
    obtain ⟨text, rfl⟩ := eq_doc_of_mem isDoc
    exact Statement.knows_doc
  intro statement isStatement
  simp only [extensionCode, List.mem_append, List.mem_cons, List.not_mem_nil, or_false]
    at isStatement
  rcases isStatement with (((isDispatch | isImplementation) | isClass) | isRegistration) | rfl
  · rcases isDispatch with rfl | rfl
    · refine Statement.forall_lookedByFunction.mpr fun statement isIn => ?_
      exact fun name isName isReserved => .inr (.inr (unsupported statement isIn name isName
        isReserved))
    · simp [Statement.lookedLater]
  · obtain ⟨implementation, isIn, isStatement⟩ := List.mem_flatMap.mp isImplementation
    simp only [implementationCode, List.mem_cons, List.not_mem_nil, or_false] at isStatement
    rcases isStatement with rfl | rfl
    · refine Statement.forall_lookedByFunction.mpr fun statement isPart => ?_
      exact fun name isName isReserved =>
        .inr (knows_implementation accepted record implementation isIn statement isPart name
          isName isReserved)
    · simp [Statement.lookedLater]
  · rcases isClass with rfl | rfl | rfl | rfl | rfl
    · simp [Statement.lookedLater]
    · simp [Statement.lookedLater]
    · intro name isName
      obtain ⟨statement, isPart, isName⟩ := List.mem_flatMap.mp isName
      rcases List.mem_append.mp isPart with isDoc | isPass
      · obtain ⟨text, rfl⟩ := eq_doc_of_mem isDoc
        cases isName
      · obtain rfl := List.mem_singleton.mp isPass
        cases isName
    · simp [Statement.lookedLater]
    · simp [Statement.lookedLater]
  · obtain ⟨implementation, -, rfl⟩ := List.mem_map.mp isRegistration
    simp [Statement.lookedLater]
  · simp [Statement.lookedLater]

end Extension

/-! ## The code of the routing -/

section Routing

variable {names : List String}

/-- The top of the code of the routing looks up the defaults of the public routine. -/
theorem definedAbove_routingCode (uses : ∀ use ∈ plan.routingUses, reserved use.1 ∈ names) :
    DefinedAbove names plan.routingCode := by
  have defaults : ∀ name ∈ plan.routineParameters.filterMap ParameterItem.default?,
      name ∈ names := by
    intro name isDefault
    cases isMode : plan.mode with
    | exclusive =>
      simp only [routineParameters, isMode] at isDefault
      obtain ⟨use, isUse, rfl⟩ := mem_defaults_declaredItems isDefault
      exact uses use (by simp [routingUses, isMode, isUse])
    | scheduled =>
      simp only [routineParameters, isMode] at isDefault
      obtain ⟨use, isUse, rfl⟩ := mem_defaults_parameterList isDefault
      exact uses use (by simp [routingUses, isMode, isUse])
  refine ⟨by simp [Statement.lookedNow, Expr.namesAll, ParameterItem.default?],
    by simp [Statement.lookedNow], ?_, trivial⟩
  intro name isName _
  have isDefault : name ∈ plan.routineParameters.filterMap ParameterItem.default? := by
    simpa [Statement.lookedNow, Expr.namesAll] using isName
  exact List.mem_append_left _ (List.mem_append_left _ (defaults name isDefault))

/-- The world and the entity go by names of parameters in the public routine. -/
theorem reaches_insideRoutine (known : String → Prop) (accepted : plan.Accepted) : Reaches known
    (insideRoutine ((plan.classification.context.map Parameter.name).getD "")
      ((plan.classification.entity.map Parameter.name).getD "")) := by
  have free : ∀ found : Option Parameter,
      (∀ parameter, found = some parameter →
        ∃ role, (parameter, role) ∈ plan.classification.roles) →
        isReserved ((found.map Parameter.name).getD "") = false := by
    intro found isRole
    cases found with
    | none => rfl
    | some parameter =>
      obtain ⟨role, isRole⟩ := isRole parameter rfl
      exact accepted.free_of_role isRole
  have context := free plan.classification.context fun parameter isContext =>
    ⟨_, (accepted.sorts.context parameter).mpr isContext⟩
  have entity := free plan.classification.entity fun parameter isEntity => by
    rcases accepted.sorts.ofEntity parameter isEntity with isRole | ⟨piped, isPiped, rfl, -⟩
    · exact ⟨_, isRole⟩
    · exact ⟨_, (accepted.sorts.piped piped.parameter).mpr ⟨piped, isPiped, rfl⟩⟩
  constructor
  · simp [insideRoutine, context]
  · simp [insideRoutine, entity]
  · intro name isFree
    simp [insideRoutine, isFree]

/-- Handing an outcome on looks up the classes of outcomes and the handlers. -/
theorem knows_routeBody (uses : ∀ use ∈ plan.routeUses, known (reserved use.1)) :
    ∀ statement ∈ plan.routeBody, statement.Knows known := by
  have success : plan.options.onSuccess.isSome = true →
      known (reserved "Success") ∧ known (reserved "ok") := by
    intro isSome
    obtain ⟨handler, isHandler⟩ := Option.isSome_iff_exists.mp isSome
    exact ⟨uses ("Success", .ofClass ClassId.success) (by simp [routeUses, isHandler]),
      uses ("ok", handler) (by simp [routeUses, isHandler])⟩
  have failure : plan.options.onFailure.isSome = true →
      known (reserved "Failure") ∧ known (reserved "err") := by
    intro isSome
    obtain ⟨handler, isHandler⟩ := Option.isSome_iff_exists.mp isSome
    exact ⟨uses ("Failure", .ofClass ClassId.failure) (by simp [routeUses, isHandler]),
      uses ("err", handler) (by simp [routeUses, isHandler])⟩
  rw [routeBody, List.forall_mem_singleton, Statement.knows_choose, List.forall_mem_append]
  constructor
  · split
    · rename_i isSome
      simp [isOutcome, handle, isReserved_plain, success isSome]
    · simp
  · split
    · rename_i isSome
      simp [isOutcome, handle, isReserved_plain, failure isSome]
    · simp

/-- The functions of the routing look up each other, the class of the record and what the routing
uses. -/
theorem later_routingCode (accepted : plan.Accepted) (record : known recordAlias)
    (route : known routeName) (uses : ∀ use ∈ plan.routingUses, known (reserved use.1)) :
    ∀ statement ∈ plan.routingCode, ∀ name ∈ statement.lookedLater, isReserved name = true →
      known name := by
  have routes : ∀ statement ∈ plan.routeBody, statement.Knows known :=
    knows_routeBody fun use isUse => uses use (by simp [routingUses, isUse])
  have runs : ∀ statement ∈ plan.routineBody, statement.Knows fun name =>
      name ∈ plan.routineParameters.filterMap ParameterItem.name? ∨ known name := by
    intro statement isStatement
    cases isMode : plan.mode with
    | exclusive =>
      have reaches := reaches_insideRoutine (fun name =>
        name ∈ plan.routineParameters.filterMap ParameterItem.name? ∨ known name) accepted
      have call := knows_bodyCall accepted reaches fun use isUse =>
        .inr (uses use (by simp [routingUses, isMode, isUse]))
      simp only [routineBody, isMode, List.mem_singleton] at isStatement
      subst isStatement
      refine Statement.knows_expression.mpr (Expr.knows_apply.mpr ⟨?_, ?_⟩)
      · exact Expr.knows_name.mpr fun _ => .inr route
      · rw [List.forall_mem_cons, List.forall_mem_singleton]
        exact ⟨reaches.world, call⟩
    | scheduled =>
      have leading : ∀ name ∈ if plan.forEntity then [entityName, worldName] else [worldName],
          name ∈ plan.routineParameters.filterMap ParameterItem.name? := by
        simp only [routineParameters, isMode, names_parameterList]
        cases plan.forEntity <;> simp
      simp only [routineBody, isMode, List.mem_singleton] at isStatement
      subst isStatement
      refine Statement.knows_expression.mpr (Expr.knows_send.mpr ⟨?_, ?_⟩)
      · exact (knows_construct accepted record).imp fun _ => .inr
      · rw [List.forall_mem_map]
        exact fun name isIn => Expr.knows_name.mpr fun _ => .inl (leading name isIn)
  simp only [routingCode, List.forall_mem_cons, List.not_mem_nil, IsEmpty.forall_iff, implies_true,
    and_true]
  refine ⟨Statement.forall_lookedByFunction.mpr fun statement isIn name isName isReserved => ?_,
    by simp [Statement.lookedLater],
    Statement.forall_lookedByFunction.mpr fun statement isIn name isName isReserved => ?_⟩
  · exact .inr (.inr (routes statement isIn name isName isReserved))
  · rcases runs statement isIn name isName isReserved with isParameter | isKnown
    · exact .inl isParameter
    · exact .inr (.inr isKnown)

end Routing

/-! ## The code of a command -/

/-- The top of the code of a command looks up what the command uses. -/
theorem definedAbove_code (accepted : plan.Accepted) {names : List String}
    (uses : ∀ use ∈ plan.uses, reserved use.1 ∈ names) : DefinedAbove names plan.code := by
  have record : DefinedAbove names plan.recordCode :=
    definedAbove_recordCode accepted fun use isUse => uses use (by simp [Plan.uses, isUse])
  have routing : ∀ more,
      DefinedAbove (names ++ more) (if plan.isRouted then plan.routingCode else []) := by
    intro more
    split
    · rename_i isRouted
      exact definedAbove_routingCode fun use isUse =>
        List.mem_append_left _ (uses use (by simp [Plan.uses, isRouted, isUse]))
    · trivial
  have extension : ∀ more, DefinedAbove (names ++ more)
      (if plan.options.noExtension then [] else plan.extensionCode) := by
    intro more
    split
    · trivial
    · rename_i isMade
      exact definedAbove_extensionCode accepted fun use isUse =>
        List.mem_append_left _ (uses use (by simp [Plan.uses, isMade, isUse]))
  rw [code, definedAbove_append, definedAbove_append]
  exact ⟨⟨record, routing _⟩, extension _⟩

/-- The functions of a command look up the class of the record, the function that hands an outcome
on if there is one, and what the command uses. -/
theorem later_code (known : String → Prop) (accepted : plan.Accepted) (record : known recordAlias)
    (route : plan.isRouted = true → known routeName)
    (uses : ∀ use ∈ plan.uses, known (reserved use.1)) :
    ∀ statement ∈ plan.code, ∀ name ∈ statement.lookedLater, isReserved name = true →
      known name := by
  intro statement isStatement
  rw [code, List.mem_append, List.mem_append] at isStatement
  rcases isStatement with (isRecord | isRouting) | isExtension
  · exact later_recordCode accepted
      (fun use isUse => uses use (by simp [Plan.uses, recordUses, isUse])) route statement isRecord
  · split at isRouting
    · rename_i isRouted
      exact later_routingCode accepted record (route isRouted)
        (fun use isUse => uses use (by simp [Plan.uses, isRouted, isUse])) statement isRouting
    · cases isRouting
  · split at isExtension
    · cases isExtension
    · rename_i isMade
      have isUnimplemented := uses ("unimplemented", .builtin "unimplemented")
        (by simp [Plan.uses, isMade, extensionUses])
      exact later_extensionCode accepted record isUnimplemented statement isExtension

/-- The code of a command is closed among names that it is bound to what it uses by. -/
theorem closed_code (accepted : plan.Accepted) {names : List String}
    (uses : ∀ use ∈ plan.uses, reserved use.1 ∈ names) : Closed names plan.code where
  now := definedAbove_code accepted uses
  later := by
    refine later_code (· ∈ names ++ plan.code.flatMap Statement.defined) accepted ?_ ?_ ?_
    · simp [code, recordCode, Statement.defined]
    · intro isRouted
      simp [code, isRouted, routingCode, Statement.defined]
    · exact fun use isUse => List.mem_append_left _ (uses use isUse)

/-- **The code of a command is closed, and its bindings never conflict.**  The fragments of every
definition that is accepted are made and put together; each use is bound to what it stands for, and
the code is closed among these names, as it is written, and as it is run if its names are in their
normal spelling. -/
theorem closed_of_build {around : Surroundings} {target : Target} {raw : Options.Raw}
    {forEntity : Bool} {body : Value} (runs : build around target raw forEntity body = .ok plan)
    (distinct : (plan.signature.parameters.map Parameter.name).Nodup) :
    ∃ fragments names, plan.fragments = .ok fragments ∧
      Fragment.merge [] fragments.toList = .ok names ∧
      (∀ use ∈ plan.uses, Entries.get? names (reserved use.1) = some use.2) ∧
      Closed (names.map Prod.fst) plan.code ∧
      (Statement.keepsAll .normal plan.code = true →
        Closed (names.map Prod.fst) (Statement.renamedAll .normal plan.code)) := by
  have accepted := (accepted_of_build runs).1
  have agree := agree_uses accepted distinct
  obtain ⟨fragments, names, makes, merges⟩ := exists_fragments agree
  obtain ⟨-, bound⟩ := get?_of_merge agree makes merges
  have closed : Closed (names.map Prod.fst) plan.code := closed_code accepted fun use isUse =>
    List.mem_map.mpr ⟨_, Entries.mem_of_get? (bound use isUse), rfl⟩
  refine ⟨fragments, names, makes, merges, bound, closed, fun keeps => ?_⟩
  rwa [Statement.renamedAll_of_keeps keeps]

/-! ## Another spelling -/

/-- A routine whose input is bound to a name that is not in its normal spelling, with a default. -/
def ordinalRoutine : Routine :=
  { transferRoutine with
    parameters := [⟨"order", .positional, some (.ofInt 20)⟩]
    annotations := [("order", .annotated (.applied ClassId.input [.cls ClassId.int] 0)
      [.pattern [.ofText "\u00aamount"] 0])] }

/-- The default of such a field is bound in the spelling of its name and looked up in the normal
one: the code is closed as it is written, and not as it is run. -/
theorem ordinal_default_is_unbound : ∃ fragments names,
    (plainPlan ordinalRoutine).fragments = .ok fragments ∧
      Fragment.merge [] fragments.toList = .ok names ∧
      Closed (names.map Prod.fst) (plainPlan ordinalRoutine).code ∧
      ¬ Closed (names.map Prod.fst)
        (Statement.renamedAll .normal (plainPlan ordinalRoutine).code) := by
  have facts : (plainBuild ordinalRoutine).isOk = true ∧
      ((plainPlan ordinalRoutine).signature.parameters.map Parameter.name).Nodup ∧
      ((Statement.renamedAll .normal (plainPlan ordinalRoutine).code).head?.any fun statement =>
        statement.lookedNow.contains (reserved "default_amount")) = true ∧
      ((plainPlan ordinalRoutine).uses.map Prod.fst).contains "default_amount" = false := by
    decide +kernel
  obtain ⟨isBuilt, distinct, isLooked, isOther⟩ := facts
  have runs := plainBuild_eq isBuilt
  have agree := agree_uses (accepted_of_build runs).1 distinct
  obtain ⟨fragments, names, makes, merges, -, closed, -⟩ := closed_of_build runs distinct
  refine ⟨fragments, names, makes, merges, closed, fun isClosed => ?_⟩
  have above := isClosed.now
  cases isCode : Statement.renamedAll .normal (plainPlan ordinalRoutine).code with
  | nil =>
    rw [isCode] at isLooked
    cases isLooked
  | cons statement rest =>
    rw [isCode] at isLooked above
    have isKey := above.1 (reserved "default_amount") (by simpa using isLooked)
      (isReserved_reserved _)
    obtain ⟨entry, isEntry, same⟩ := List.mem_map.mp isKey
    obtain ⟨use, isUse, rfl⟩ := (get?_of_merge agree makes merges).1 entry isEntry
    have isName : use.1 = "default_amount" := reserved_inj.mp same
    rw [List.contains_eq_mem, decide_eq_false_iff_not] at isOther
    exact isOther (isName ▸ List.mem_map_of_mem isUse)

end Plan

end Deferred
