import Deferred.Call.Convert
import Deferred.Proofs.Run

/-!
# Arguments that fit

Arguments given by position fill plain parameters in order; arguments given by name fill the
parameters of these names, whatever the order of the parameters.
-/

namespace Deferred.Arguments

variable {store : Store}

/-- Values by position, as what fills parameters of some names. -/
def inOrder (names : List String) (given : List Value) : List (String × Filling) :=
  names.zipWith (fun name value => (name, .value value)) given

@[simp] theorem kind_plain (name : String) : (CallParameter.plain name).kind = .positional := rfl

@[simp] theorem name_plain (name : String) : (CallParameter.plain name).name = name := rfl

@[simp] theorem takesPosition_plain (name : String) : takesPosition (.plain name) = true := rfl

@[simp] theorem takesName_plain (name : String) : takesName (.plain name) = true := rfl

theorem fill_plain {names : List String} {given : List Value}
    (asMany : names.length = given.length) :
    fill [] [] (names.map CallParameter.plain) given = some (inOrder names given) := by
  induction names generalizing given with
  | nil =>
    cases given with
    | nil => rfl
    | cons _ _ => simp at asMany
  | cons name rest ih =>
    cases given with
    | nil => simp at asMany
    | cons value others =>
      have fits : fill [] [] (rest.map CallParameter.plain) others = some (inOrder rest others) :=
        ih (by simpa using asMany)
      simp only [List.map_cons, fill, kind_plain, takesPosition_plain, takesName_plain,
        List.lookup_nil, if_true, fits, name_plain]
      rfl

/-- Values by position fit as many plain parameters. -/
theorem fit?_plain {names : List String} {given : List Value}
    (asMany : names.length = given.length) :
    fit? (names.map CallParameter.plain) (.ofList given) = some (inOrder names given) := by
  rw [fit?]
  exact fill_plain asMany

theorem run_values_inOrder {names : List String} {given : List Value}
    (asMany : names.length = given.length) :
    (values (inOrder names given)).run store = (.ok (names.zip given), store) := by
  induction names generalizing given with
  | nil => rfl
  | cons name rest ih =>
    cases given with
    | nil => simp at asMany
    | cons value others =>
      have gives : (values (inOrder rest others)).run store = (.ok (rest.zip others), store) :=
        ih (by simpa using asMany)
      change ((values (inOrder rest others)).bind fun rest => .done ((name, value) :: rest)).run store =
        _
      rw [Action.run_bind_of_ok gives]
      rfl

/-- Values by position are bound to as many plain parameters. -/
theorem run_bindTo_plain {names : List String} {given : List Value} (owner : String)
    (asMany : names.length = given.length) :
    (bindTo owner (names.map CallParameter.plain) (.ofList given)).run store =
      (.ok (names.zip given), store) := by
  rw [bindTo, fit?_plain asMany]
  exact run_values_inOrder asMany

/-- Arguments that fit are bound alike, whatever it is that takes them. -/
theorem run_bindTo_of_ok {owner : String} {parameters : List CallParameter} {arguments : Arguments}
    {locals : List (String × Value)} {before after : Store} (other : String)
    (binds : (bindTo owner parameters arguments).run before = (.ok locals, after)) :
    (bindTo other parameters arguments).run before = (.ok locals, after) := by
  rw [bindTo] at binds ⊢
  cases fits : fit? parameters arguments with
  | some filled => simpa only [fits] using binds
  | none =>
    rw [fits] at binds
    cases binds

/-! ## Arguments by name -/

/-- Names, each with what is given for it. -/
def named (names : List String) (give : String → Value) : List (String × Value) :=
  names.map fun name => (name, give name)

theorem lookup_named {names : List String} {give : String → Value} {name : String}
    (isIn : name ∈ names) : (named names give).lookup name = some (give name) := by
  induction names with
  | nil => simp at isIn
  | cons first rest ih =>
    rw [named, List.map_cons, List.lookup_cons]
    by_cases same : name = first
    · subst same
      simp
    · have later : name ∈ rest := by simpa [same] using isIn
      rw [beq_false_of_ne same]
      exact ih later

theorem lookup_named_of_notMem {names : List String} {give : String → Value} {name : String}
    (isOut : name ∉ names) : (named names give).lookup name = none := by
  induction names with
  | nil => rfl
  | cons first rest ih =>
    simp only [List.mem_cons, not_or] at isOut
    rw [named, List.map_cons, List.lookup_cons, beq_false_of_ne isOut.1]
    exact ih isOut.2

/-- Parameters that take a name are filled by name, whatever else there is. -/
theorem fill_named {names : List String} {give : String → Value}
    {extra : List (String × Value)} {parameters : List CallParameter}
    (taken : ∀ parameter ∈ parameters, takesName parameter = true ∧ parameter.name ∈ names) :
    fill (named names give) extra parameters [] =
      some (parameters.map fun parameter => (parameter.name, .value (give parameter.name))) := by
  induction parameters with
  | nil => rfl
  | cons parameter rest ih =>
    obtain ⟨takes, isIn⟩ := taken parameter List.mem_cons_self
    have fits := ih fun other isLater => taken other (List.mem_cons_of_mem _ isLater)
    have given : (named names give).lookup parameter.name = some (give parameter.name) :=
      lookup_named isIn
    simp only [fill, takes, if_true, given, fits]
    cases isKind : parameter.kind <;> simp_all [takesName, takesPosition]

/-- Nothing is left over where every name is taken. -/
theorem leftover_named {names : List String} {give : String → Value}
    {parameters : List CallParameter}
    (taken : ∀ name ∈ names, ∃ parameter ∈ parameters,
      takesName parameter = true ∧ parameter.name = name) :
    leftover parameters (named names give) = [] := by
  rw [leftover, List.filter_eq_nil_iff]
  intro entry isIn
  obtain ⟨name, isName, rfl⟩ := List.mem_map.mp isIn
  obtain ⟨parameter, isParameter, takes, same⟩ := taken name isName
  simp only [Bool.not_eq_true', List.any_eq_true, Bool.and_eq_true, decide_eq_true_eq,
    Bool.not_eq_false]
  exact ⟨parameter, isParameter, takes, same⟩

/-- A receiver by position and everything else by name. -/
theorem fit?_named (receiver : String) (made : Value) (give : String → Value)
    {names : List String} {parameters : List CallParameter}
    (taken : ∀ parameter ∈ parameters, takesName parameter = true ∧ parameter.name ∈ names)
    (known : ∀ name ∈ names, ∃ parameter ∈ parameters, parameter.name = name)
    (apart : receiver ∉ names) :
    fit? (CallParameter.plain receiver :: parameters)
        { positional := [made], keywords := named names give } =
      some ((receiver, .value made) ::
        parameters.map fun parameter => (parameter.name, .value (give parameter.name))) := by
  have nothing : leftover (CallParameter.plain receiver :: parameters) (named names give) = [] := by
    apply leftover_named
    intro name isIn
    obtain ⟨parameter, isParameter, same⟩ := known name isIn
    exact ⟨parameter, List.mem_cons_of_mem _ isParameter, (taken parameter isParameter).1, same⟩
  simp only [fit?, nothing]
  simp only [List.isEmpty_nil, Bool.not_true, Bool.false_and, if_false, Bool.false_eq_true]
  simp only [fill, kind_plain, takesPosition_plain, takesName_plain, name_plain, if_true,
    lookup_named_of_notMem apart, fill_named taken, Option.map_some]

theorem run_values_filled (given : List (String × Value)) :
    (values (given.map fun entry => (entry.1, .value entry.2))).run store = (.ok given, store) := by
  induction given with
  | nil => rfl
  | cons entry rest ih =>
    change ((values (rest.map fun entry => (entry.1, .value entry.2))).bind fun rest =>
      .done (entry :: rest)).run store = _
    rw [Action.run_bind_of_ok ih]
    rfl

end Deferred.Arguments

namespace Deferred.Action

theorem run_valuesFor_plain {store : Store} (names : List String) {given : List Value}
    (owner : String) (asMany : names.length = given.length) :
    (valuesFor owner (names.map CallParameter.plain) (.ofList given)).run store =
      (.ok given, store) := by
  rw [valuesFor, bind_eq, run_bind_of_ok (Arguments.run_bindTo_plain owner asMany)]
  rw [pure_eq_done, run_done, List.map_snd_zip (Nat.le_of_eq asMany.symm)]

end Deferred.Action
