import Deferred.Proofs.Evaluating

/-!
# Functions made by code

A definition makes a function with the parameters that its parameter list declares, each with the
value of its default, and with the body as it is written.
-/

namespace Deferred

/-- A value is a function that runs some code among the names of a space. -/
def Store.RunsCode (store : Store) (value : Value) (parameters : List CallParameter)
    (body : List Code.Statement) (space : Ref) : Prop :=
  ∃ place function, value = .object ClassId.function place ∧
    store.object? place = some (.function function) ∧ function.parameters = parameters ∧
    function.body = .code body space

theorem Store.RunsCode.of_grows {before after : Store} {value : Value}
    {parameters : List CallParameter} {body : List Code.Statement} {space : Ref}
    (runs : before.RunsCode value parameters body space) (grows : before.Grows after) :
    after.RunsCode value parameters body space := by
  obtain ⟨place, function, isFunction, stands, takes, does⟩ := runs
  exact ⟨place, function, isFunction, grows.object? stands, takes, does⟩

theorem Store.RunsCode.isFunction {store : Store} {value : Value}
    {parameters : List CallParameter} {body : List Code.Statement} {space : Ref}
    (runs : store.RunsCode value parameters body space) : store.isFunction value = true := by
  obtain ⟨place, function, rfl, stands, -, -⟩ := runs
  simp [Store.isFunction, Store.functionOf?, Store.objectOf?, stands]

namespace Code

open Action

variable {site : Site} {locals : Bindings} {store before after : Store}

/-! ## Parameter lists -/

/-- The parameter that takes the value of a field. -/
def fieldParameter (kind : ParameterKind) (field : Field) : CallParameter :=
  { name := field.name, kind, default := field.default }

/-- The kind of the parameters before and after the mark for those given by name only. -/
def kindAfter (named : Bool) : ParameterKind := if named then .keywordOnly else .positional

/-- The kind of a parameter in front of the rest of a parameter list. -/
def kindBefore (named : Bool) (rest : List ParameterItem) : ParameterKind :=
  if named then .keywordOnly
  else if rest.contains .slash then .positionalOnly
  else .positional

theorem kindBefore_of_closed (named : Bool) {rest : List ParameterItem}
    (closed : rest.contains .slash = false) : kindBefore named rest = kindAfter named := by
  rw [kindBefore, kindAfter, closed]
  rfl

theorem run_parametersOf_cons {named : Bool} {item : ParameterItem} {rest : List ParameterItem}
    {parameter : CallParameter} {parameters : List CallParameter}
    (isParameter : (∃ name, item = .required name ∧
        parameter = { name, kind := kindBefore named rest, default := none }) ∨
      ∃ name default value, item = .optional name default ∧
        Means site locals store default value ∧
        parameter = { name, kind := kindBefore named rest, default := some value })
    (others : (parametersOf site locals named rest).run store = (.ok parameters, store)) :
    (parametersOf site locals named (item :: rest)).run store =
      (.ok (parameter :: parameters), store) := by
  rcases isParameter with ⟨name, rfl, rfl⟩ | ⟨name, default, value, rfl, means, rfl⟩
  · simp only [parametersOf, bind_eq, pure_eq_done, done_bind]
    rw [run_bind_of_ok others, run_done]
    rfl
  · simp only [parametersOf, bind_eq, pure_eq_done, done_bind]
    rw [run_bind_of_ok (run_meaning means), run_bind_of_ok others, run_done]
    rfl

/-- The defaults that the parameters of some fields use are bound. -/
def DefaultsMean (site : Site) (locals : Bindings) (store : Store) (fields : List Field) : Prop :=
  ∀ field ∈ fields, ∀ value, field.default = some value →
    Means site locals store (Text.reserved (Field.defaultName field.name)) value

theorem run_parametersOf_fields (named : Bool) (fields : List Field) {rest : List ParameterItem}
    {parameters : List CallParameter} (closed : rest.contains .slash = false)
    (defaults : DefaultsMean site locals store fields)
    (others : (parametersOf site locals named rest).run store = (.ok parameters, store)) :
    (parametersOf site locals named (fields.map Field.item ++ rest)).run store =
      (.ok (fields.map (fieldParameter (kindAfter named)) ++ parameters), store) := by
  induction fields with
  | nil => exact others
  | cons field remaining ih =>
    have later := ih fun other isLater => defaults other (List.mem_cons_of_mem _ isLater)
    have closedToo : (remaining.map Field.item ++ rest).contains .slash = false := by
      simp only [List.contains_eq_mem, List.mem_append, decide_eq_false_iff_not, not_or] at closed ⊢
      refine ⟨?_, closed⟩
      intro isMark
      obtain ⟨other, -, isItem⟩ := List.mem_map.mp isMark
      rw [Field.item] at isItem
      split at isItem <;> cases isItem
    rw [List.map_cons, List.cons_append]
    apply run_parametersOf_cons ?_ later
    rw [kindBefore_of_closed named closedToo]
    cases hasDefault : field.default with
    | none =>
      exact .inl ⟨field.name, by simp [Field.item, hasDefault], by simp [fieldParameter, hasDefault]⟩
    | some value =>
      exact .inr ⟨field.name, Text.reserved (Field.defaultName field.name), value,
        by simp [Field.item, hasDefault], defaults field List.mem_cons_self value hasDefault,
        by simp [fieldParameter, hasDefault]⟩

theorem run_parametersOf_leading (names : List String) {rest : List ParameterItem}
    {parameters : List CallParameter} (closed : rest.contains .slash = false)
    (others : (parametersOf site locals false rest).run store = (.ok parameters, store)) :
    (parametersOf site locals false (names.map .required ++ rest)).run store =
      (.ok (names.map CallParameter.plain ++ parameters), store) := by
  induction names with
  | nil => exact others
  | cons name remaining ih =>
    rw [List.map_cons, List.cons_append]
    refine run_parametersOf_cons (.inl ⟨name, rfl, ?_⟩) ih
    rw [kindBefore_of_closed false (by simpa using closed)]
    rfl

/-- The parameters of a function that takes a value for each field behind some leading ones. -/
def fieldParameters (fields : List Field) (leading : List String) : List CallParameter :=
  leading.map CallParameter.plain ++
    ((fields.filter (!·.keywordOnly)).map (fieldParameter .positional) ++
      (fields.filter (·.keywordOnly)).map (fieldParameter .keywordOnly))

theorem item_ne_slash (field : Field) : field.item ≠ .slash := by
  intro isMark
  rw [Field.item] at isMark
  split at isMark <;> cases isMark

theorem items_contains_slash (fields : List Field) :
    (fields.map Field.item).contains .slash = false := by
  simpa using fun field _ => item_ne_slash field

/-- A parameter list with an item for each field declares a parameter for each field. -/
theorem run_parametersOf_parameterList {fields : List Field} {leading : List String}
    (defaults : DefaultsMean site locals store fields) :
    (parametersOf site locals false (Plan.parameterList fields leading)).run store =
      (.ok (fieldParameters fields leading), store) := by
  have ofNamed : (parametersOf site locals false
      (if (fields.filter (·.keywordOnly)).isEmpty then []
        else .star :: (fields.filter (·.keywordOnly)).map Field.item)).run store =
      (.ok ((fields.filter (·.keywordOnly)).map (fieldParameter .keywordOnly)), store) := by
    cases isNamed : fields.filter (·.keywordOnly) with
    | nil => rfl
    | cons field rest =>
      have runs := run_parametersOf_fields true (field :: rest) rfl
        (fun other isIn => defaults other (List.mem_of_mem_filter (isNamed ▸ isIn)))
        (show (parametersOf site locals true []).run store = (.ok [], store) from rfl)
      simpa [parametersOf, kindAfter] using runs
  have closed : (if (fields.filter (·.keywordOnly)).isEmpty then []
      else .star :: (fields.filter (·.keywordOnly)).map Field.item).contains
        ParameterItem.slash = false := by
    split
    · rfl
    · rw [List.contains_cons, items_contains_slash]
      rfl
  have ofOthers := run_parametersOf_fields false (fields.filter (!·.keywordOnly)) closed
    (fun other isIn => defaults other (List.mem_of_mem_filter isIn)) ofNamed
  have closedToo : ((fields.filter (!·.keywordOnly)).map Field.item ++
      (if (fields.filter (·.keywordOnly)).isEmpty then []
        else .star :: (fields.filter (·.keywordOnly)).map Field.item)).contains
        ParameterItem.slash = false := by
    rw [List.contains_eq_any_beq, List.any_append, ← List.contains_eq_any_beq,
      ← List.contains_eq_any_beq, items_contains_slash, closed]
    rfl
  have all := run_parametersOf_leading leading closedToo ofOthers
  simpa [Plan.parameterList, fieldParameters, kindAfter] using all

/-! ## Declared parameter lists -/

/-- A declared parameter as calls are fitted to it. -/
def declaredParameter (parameter : Parameter) : CallParameter :=
  { name := parameter.name, kind := parameter.kind, default := parameter.default }

/-- The order in which a language lets kinds of parameters follow each other. -/
def kindRank : ParameterKind → Nat
  | .positionalOnly => 0
  | .positional => 1
  | .variadic => 2
  | .keywordOnly => 3
  | .keywordVariadic => 4

/-- A parameter list that could have been written: kinds in order, none of them taking any number
of arguments. -/
structure Writable (parameters : List Parameter) : Prop where
  ordered : parameters.Pairwise fun first second => kindRank first.kind ≤ kindRank second.kind
  counted : ∀ parameter ∈ parameters, parameter.kind.isVariadic = false

theorem Writable.tail {parameter : Parameter} {rest : List Parameter}
    (writable : Writable (parameter :: rest)) : Writable rest where
  ordered := (List.pairwise_cons.mp writable.ordered).2
  counted other isLater := writable.counted other (List.mem_cons_of_mem _ isLater)

/-- Behind a parameter come none that are written before it. -/
theorem Writable.kind_of_mem {parameter : Parameter} {rest : List Parameter}
    (writable : Writable (parameter :: rest)) {other : Parameter} (isLater : other ∈ rest)
    (isEarly : kindRank other.kind < kindRank parameter.kind) : False :=
  Nat.not_lt.mpr ((List.pairwise_cons.mp writable.ordered).1 other isLater) isEarly

theorem declaredItem_ne_slash (parameter : Parameter) :
    Plan.declaredItem parameter ≠ .slash := by
  intro isMark
  rw [Plan.declaredItem] at isMark
  split at isMark <;> cases isMark

/-- A list that opens with parameters given by position only has the mark behind them. -/
theorem slash_mem_declaredItems {starred : Bool} {parameter : Parameter} {rest : List Parameter}
    (isFirst : parameter.isPositionalOnly = true) :
    .slash ∈ Plan.declaredItems starred (parameter :: rest) := by
  induction rest generalizing parameter starred with
  | nil => simp [Plan.declaredItems, isFirst]
  | cons next remaining ih =>
    rw [Plan.declaredItems]
    cases isNext : next.isPositionalOnly with
    | false => simp [isFirst, isNext]
    | true => exact List.mem_append_right _ (ih isNext)

theorem slash_notMem_declaredItems {starred : Bool} {parameters : List Parameter}
    (none : ∀ parameter ∈ parameters, parameter.isPositionalOnly = false) :
    .slash ∉ Plan.declaredItems starred parameters := by
  induction parameters generalizing starred with
  | nil => simp [Plan.declaredItems]
  | cons parameter rest ih =>
    have isOther := none parameter List.mem_cons_self
    have later := @ih (starred || parameter.isKeywordOnly && !starred)
      fun other isLater => none other (List.mem_cons_of_mem _ isLater)
    have isItem := (declaredItem_ne_slash parameter).symm
    simp only [Plan.declaredItems, isOther, Bool.false_and, Bool.false_eq_true, if_false,
      List.mem_append, not_or]
    refine ⟨⟨?_, by simpa using isItem⟩, later⟩
    split <;> simp

/-- Behind a parameter given by name come only others given by name. -/
theorem Writable.keywordOnly_of_mem {parameter : Parameter} {rest : List Parameter}
    (writable : Writable (parameter :: rest)) (isNamed : parameter.kind = .keywordOnly)
    {other : Parameter} (isLater : other ∈ rest) : other.kind = .keywordOnly := by
  have counted := writable.counted other (List.mem_cons_of_mem _ isLater)
  have ordered := (List.pairwise_cons.mp writable.ordered).1 other isLater
  rw [isNamed] at ordered
  cases kind : other.kind <;> simp_all [kindRank, ParameterKind.isVariadic]

/-- What stands before a list without parameters given by position only may be given by name. -/
theorem kindBefore_declaredItems_of_none {parameters : List Parameter}
    (none : ∀ parameter ∈ parameters, parameter.isPositionalOnly = false) :
    kindBefore false (Plan.declaredItems false parameters) = .positional := by
  refine kindBefore_of_closed false ?_
  rw [List.contains_eq_mem, decide_eq_false (slash_notMem_declaredItems none)]

/-- What stands before a parameter given by position only is given by position only. -/
theorem kindBefore_declaredItems_of_first {parameter : Parameter} {rest : List Parameter}
    (isFirst : parameter.isPositionalOnly = true) :
    kindBefore false (Plan.declaredItems false (parameter :: rest)) = .positionalOnly := by
  rw [kindBefore, List.contains_eq_mem, decide_eq_true (slash_mem_declaredItems isFirst)]
  rfl

/-- A declared parameter is declared in front of others. -/
theorem run_parametersOf_declaredItem {starred : Bool} {parameter : Parameter}
    {items : List ParameterItem} {others : List CallParameter}
    (default : ∀ value, parameter.default = some value →
      Means site locals store (Text.reserved (Field.defaultName parameter.name)) value)
    (isKind : kindBefore starred items = parameter.kind)
    (ofOthers : (parametersOf site locals starred items).run store = (.ok others, store)) :
    (parametersOf site locals starred (Plan.declaredItem parameter :: items)).run store =
      (.ok (declaredParameter parameter :: others), store) := by
  apply run_parametersOf_cons ?_ ofOthers
  rw [isKind, Plan.declaredItem, declaredParameter]
  cases hasDefault : parameter.default with
  | none => exact .inl ⟨parameter.name, by simp, rfl⟩
  | some value => exact .inr ⟨_, _, value, by simp, default value hasDefault, rfl⟩

/-- A declared parameter list declares what was declared. -/
theorem run_parametersOf_declaredItems {starred : Bool} {parameters : List Parameter}
    (writable : Writable parameters)
    (named : starred = true → ∀ parameter ∈ parameters, parameter.kind = .keywordOnly)
    (defaults : ∀ parameter ∈ parameters, ∀ value, parameter.default = some value →
      Means site locals store (Text.reserved (Field.defaultName parameter.name)) value) :
    (parametersOf site locals starred (Plan.declaredItems starred parameters)).run store =
      (.ok (parameters.map declaredParameter), store) := by
  induction parameters generalizing starred with
  | nil => rfl
  | cons parameter rest ih =>
    have ofItem := fun starred items others => @run_parametersOf_declaredItem site locals store
      starred parameter items others (defaults parameter List.mem_cons_self)
    have later := fun starred named => @ih starred writable.tail named
      fun other isLater => defaults other (List.mem_cons_of_mem _ isLater)
    have counted := writable.counted parameter List.mem_cons_self
    have unnamed : parameter.kind ≠ .keywordOnly → starred = false := by
      intro isOther
      refine Bool.eq_false_iff.mpr fun isStarred => ?_
      exact isOther (named isStarred parameter List.mem_cons_self)
    cases isKind : parameter.kind with
    | keywordOnly =>
      have ofRest := later true fun _ _ isLater => writable.keywordOnly_of_mem isKind isLater
      have isItem := ofItem true _ _ (by rw [isKind]; rfl) ofRest
      cases starred with
      | true => simpa [Plan.declaredItems, Parameter.isKeywordOnly, Parameter.isPositionalOnly,
          isKind] using isItem
      | false => simpa [Plan.declaredItems, Parameter.isKeywordOnly, Parameter.isPositionalOnly,
          isKind, parametersOf] using isItem
    | positional =>
      obtain rfl := unnamed (by simp [isKind])
      have noneFirst : ∀ other ∈ rest, other.isPositionalOnly = false := by
        intro other isLater
        by_contra isFirst
        simp only [Parameter.isPositionalOnly, Bool.not_eq_false, decide_eq_true_eq] at isFirst
        exact writable.kind_of_mem isLater (by rw [isFirst, isKind]; decide)
      have ofRest := later false (by simp)
      have kind := (kindBefore_declaredItems_of_none noneFirst).trans isKind.symm
      simpa [Plan.declaredItems, Parameter.isKeywordOnly, Parameter.isPositionalOnly, isKind]
        using ofItem _ _ _ kind ofRest
    | positionalOnly =>
      obtain rfl := unnamed (by simp [isKind])
      have ofRest := later false (by simp)
      cases closes : rest.head?.any Parameter.isPositionalOnly with
      | false =>
        -- The mark stands right behind this parameter.
        have isItem := ofItem false (.slash :: Plan.declaredItems false rest) _
          (by rw [isKind]; rfl) (by simpa [parametersOf] using ofRest)
        simpa [Plan.declaredItems, Parameter.isKeywordOnly, Parameter.isPositionalOnly, isKind,
          closes] using isItem
      | true =>
        obtain ⟨next, remaining, rfl⟩ : ∃ next remaining, rest = next :: remaining := by
          cases rest with
          | nil => simp at closes
          | cons next remaining => exact ⟨next, remaining, rfl⟩
        have isNext : next.isPositionalOnly = true := by simpa using closes
        have kind := (@kindBefore_declaredItems_of_first next remaining isNext).trans isKind.symm
        have isNextKind : next.kind = .positionalOnly := by
          simpa [Parameter.isPositionalOnly] using isNext
        rw [Plan.declaredItems]
        simpa [Parameter.isKeywordOnly, Parameter.isPositionalOnly, isKind, isNextKind]
          using ofItem _ _ _ kind ofRest
    | variadic => simp [isKind, ParameterKind.isVariadic] at counted
    | keywordVariadic => simp [isKind, ParameterKind.isVariadic] at counted

/-! ## Making functions -/

/-- A definition evaluates its decorators and its defaults, puts a function behind a table of
annotations into the store, and applies the decorators to it. -/
theorem run_makeFunction (origin : Origin) (owner : Option String) (name : String)
    (body : List Statement) {decorators : List Expr} {given : List Value}
    {items : List ParameterItem} {parameters : List CallParameter}
    (decorated : (evaluateAll site locals decorators).run before = (.ok given, after))
    (declared : (parametersOf site locals false items).run after = (.ok parameters, after)) :
    ∃ function : FunctionObject, function.parameters = parameters ∧
      function.body = .code body site.space ∧
      (makeFunction site origin locals owner decorators name items body).run before =
        (decorate site.machine (.object ClassId.function (after.cells.size + 1)) given).run
          ((Change.allocate (.function function) []).apply
            ((Change.allocate (.dict []) []).apply after)) := by
  refine ⟨?function, ?takes, ?does, ?runs⟩
  case runs =>
    simp only [makeFunction, newDict, bind_eq]
    rw [run_bind_of_ok decorated, run_bind_of_ok declared]
    simp only [run_allocate_bind, run_store_bind, Store.size_allocate]
    rfl
  all_goals rfl

/-- A function that was just put into the store runs its code. -/
theorem runsCode_allocate (store : Store) {function : FunctionObject}
    {parameters : List CallParameter} {body : List Statement} {space : Ref}
    (takes : function.parameters = parameters) (does : function.body = .code body space) :
    ((Change.allocate (.function function) []).apply store).RunsCode
      (.object ClassId.function store.cells.size) parameters body space :=
  ⟨store.cells.size, function, rfl, Store.object?_allocate store _ _, takes, does⟩

end Code

end Deferred
