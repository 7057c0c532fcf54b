import Deferred.Proofs.Flushing
import Deferred.Proofs.Supplies

/-!
# Where injected values go

The host collects a value for each parameter of a routine that asks for something, and passes over
those that ask for nothing; parameters that were bound by name beforehand are none of its business.
Each value is what the parameter wants, and it reaches this parameter, as long as no parameter that
only takes a position is passed over before another one that is not.  Where this happens, nothing is
reported and a parameter is bound to what another one wants.
-/

namespace Deferred

namespace Action

open Store Supply

variable {call : Caller} {world system answer : Value} {input : Option Value} {hints : Bindings}
  {sofar given : Injection} {parameter : CallParameter} {parameters : List CallParameter}
  {supply : Supply} {before after : Store}

/-! ## What is collected -/

/-- What the host gives to a parameter that wants something. -/
inductive Provides (call : Caller) (world : Value) (input : Option Value) : Wanted → Value → Prop
  | input {value : Value} (isInput : input = some value) : Provides call world input .input value
  | world : Provides call world input .world world
  /-- A new handle over a new queue. -/
  | commands {before between after : Store} {queue handle : Value}
      (makesQueue : (call (.ofClass ClassId.commandQueue) {}).run before = (.ok queue, between))
      (makesHandle : (call (.ofClass ClassId.commands) (.ofList [queue, world])).run between =
        (.ok handle, after)) :
    Provides call world input .commands handle
  /-- What the world answers when it is asked for a resource of the type. -/
  | resource {before between after : Store} {type method value : Value}
      (reads : (getAttribute call world "resource").run before = (.ok method, between))
      (finds : (call method (.ofList [type])).run between = (.ok value, after)) :
    Provides call world input (.resource (some type)) value
  | query {before after : Store} {type value : Value}
      (makes : (call (.ofClass ClassId.query) (.ofList [world, type])).run before =
        (.ok value, after)) :
    Provides call world input (.query (some type)) value

/-- Does the annotation of a parameter ask for something? -/
def asks (hints : Bindings) (parameter : CallParameter) : Prop :=
  Wanted.ofHint (hints.lookup parameter.name) ≠ .nothing

/-- What was collected for a parameter is what it wants; one that wants nothing has a default. -/
def Meets (call : Caller) (world : Value) (input : Option Value) (hints : Bindings)
    (supply : Supply) : Prop :=
  match supply.argument with
  | some value =>
    Provides call world input (.ofHint (hints.lookup supply.parameter.name)) value
  | none => ¬ asks hints supply.parameter ∧ supply.parameter.default.isSome = true

theorem Meets.isSome_iff (meets : Meets call world input hints supply) :
    supply.argument.isSome = true ↔ asks hints supply.parameter := by
  rw [Meets] at meets
  cases isSupplied : supply.argument with
  | none => simpa [isSupplied] using (isSupplied ▸ meets).1
  | some value =>
    rw [isSupplied] at meets
    refine iff_of_true rfl fun wantsNothing => ?_
    rw [wantsNothing] at meets
    cases meets

theorem Meets.filled (meets : Meets call world input hints supply) :
    (supply.argument.or supply.parameter.default).isSome = true := by
  rw [Meets] at meets
  cases isSupplied : supply.argument with
  | none => simpa [isSupplied] using (isSupplied ▸ meets).2
  | some value => rfl

/-- What giving a value to a parameter adds to the arguments. -/
theorem give_eq (sofar : Injection) (parameter : CallParameter) (argument : Value) :
    (sofar.give parameter argument).positional =
        sofar.positional ++ placed [⟨parameter, some argument⟩] ∧
      (sofar.give parameter argument).keywords =
        sofar.keywords ++ Supply.named [⟨parameter, some argument⟩] := by
  by_cases isPlaced : parameter.kind = .positionalOnly <;>
    simp [Injection.give, placed, Supply.named, Supply.isPlaced, isPlaced]

/-- A parameter is given what it wants, or passed over if it wants nothing. -/
theorem inject_eq_ok
    (runs : (inject call world system input hints sofar parameter).run before =
      (.ok given, after)) :
    ∃ argument, Meets call world input hints ⟨parameter, argument⟩ ∧
      given.positional = sofar.positional ++ placed [⟨parameter, argument⟩] ∧
      given.keywords = sofar.keywords ++ Supply.named [⟨parameter, argument⟩] := by
  have supplied : ∀ {value : Value} {handles : List Value},
      Provides call world input (.ofHint (hints.lookup parameter.name)) value →
      given = { sofar.give parameter value with handles } →
      ∃ argument, Meets call world input hints ⟨parameter, argument⟩ ∧
        given.positional = sofar.positional ++ placed [⟨parameter, argument⟩] ∧
        given.keywords = sofar.keywords ++ Supply.named [⟨parameter, argument⟩] := by
    rintro value handles provides rfl
    exact ⟨some value, provides, give_eq sofar parameter value⟩
  simp only [inject, bind_eq, run_store_bind] at runs
  cases wants : Wanted.ofHint (hints.lookup parameter.name) with
  | input =>
    cases input with
    | none => simp [wants] at runs
    | some value =>
      simp only [wants] at runs
      cases runs
      exact supplied (wants ▸ .input rfl) rfl
  | world =>
    simp only [wants] at runs
    cases runs
    exact supplied (wants ▸ .world) rfl
  | commands =>
    simp only [wants] at runs
    obtain ⟨queue, between, makesQueue, makes⟩ := run_bind_eq_ok.mp runs
    obtain ⟨handle, _, makesHandle, ends⟩ := run_bind_eq_ok.mp makes
    cases ends
    exact supplied (wants ▸ .commands makesQueue makesHandle) rfl
  | resource type =>
    simp only [wants] at runs
    obtain ⟨method, between, reads, finds⟩ := run_bind_eq_ok.mp runs
    cases type with
    | none => cases finds
    | some type =>
      obtain ⟨value, _, finds, ends⟩ := run_bind_eq_ok.mp finds
      cases ends
      exact supplied (wants ▸ .resource reads finds) rfl
  | query type =>
    cases type with
    | none => simp [wants] at runs
    | some type =>
      simp only [wants] at runs
      obtain ⟨value, _, makes, ends⟩ := run_bind_eq_ok.mp runs
      cases ends
      exact supplied (wants ▸ .query makes) rfl
  | nothing =>
    simp only [wants] at runs
    cases hasDefault : parameter.default.isSome with
    | true =>
      simp only [hasDefault, if_true] at runs
      cases runs
      exact ⟨none, ⟨not_not_intro wants, hasDefault⟩, by simp [placed], by simp [Supply.named]⟩
    | false => simp [hasDefault] at runs

/-- What is known of a parameter of a routine, some of which were bound by name beforehand: those
are left alone, and the others are given what they want. -/
def MeetsBeside (bound : List (String × Value)) (call : Caller) (world : Value)
    (input : Option Value) (hints : Bindings) (supply : Supply) : Prop :=
  match bound.lookup supply.parameter.name with
  | some value => supply.isPlaced = false ∧ supply.argument = some value
  | none => Meets call world input hints supply

/-- After the first parameter of those that are left comes what is left of the others; it is as it
was, but may have to be given by name where it could be given by position before. -/
theorem filter_afterPartial_cons (bound : List (String × Value)) (isNamed : Bool)
    (parameter : CallParameter) (rest : List CallParameter)
    (fixed : parameter.kind.isVariadic = false) :
    ∃ kind isNamedLater, (kind = .positionalOnly ↔ parameter.kind = .positionalOnly) ∧
      (afterPartial bound isNamed (parameter :: rest) 0).filter
          (fun parameter => (bound.lookup parameter.name).isNone) =
        (if (bound.lookup parameter.name).isNone then [{ parameter with kind }] else []) ++
          (afterPartial bound isNamedLater rest 0).filter
            fun parameter => (bound.lookup parameter.name).isNone := by
  obtain ⟨name, kind, default⟩ := parameter
  cases isBound : bound.lookup name with
  | some value =>
    cases kind with
    | variadic | keywordVariadic => cases fixed
    | positionalOnly => exact ⟨.positionalOnly, isNamed, by simp, by simp [afterPartial, isBound]⟩
    | positional => exact ⟨.keywordOnly, true, by simp, by simp [afterPartial, isBound]⟩
    | keywordOnly => exact ⟨.keywordOnly, isNamed, by simp, by simp [afterPartial, isBound]⟩
  | none =>
    cases kind with
    | variadic | keywordVariadic => cases fixed
    | positionalOnly => exact ⟨.positionalOnly, isNamed, by simp, by simp [afterPartial, isBound]⟩
    | positional =>
      refine ⟨if isNamed then .keywordOnly else .positional, isNamed, ?_, ?_⟩
      · cases isNamed <;> simp
      · simp [afterPartial, isBound]
    | keywordOnly => exact ⟨.keywordOnly, isNamed, by simp, by simp [afterPartial, isBound]⟩

theorem injectAll_eq_ok {bound : List (String × Value)} {isNamed : Bool}
    (fixed : ∀ parameter ∈ parameters, parameter.kind.isVariadic = false)
    (takesNames : ∀ parameter ∈ parameters, (bound.lookup parameter.name).isSome = true →
      parameter.kind ≠ .positionalOnly)
    (runs : (injectAll call world system input hints sofar
      ((afterPartial bound isNamed parameters 0).filter fun parameter =>
        (bound.lookup parameter.name).isNone)).run before = (.ok given, after)) :
    ∃ supplies : List Supply, supplies.map Supply.parameter = parameters ∧
      (∀ supply ∈ supplies, MeetsBeside bound call world input hints supply) ∧
      given.positional = sofar.positional ++ placed (supplies.filter (isFree bound)) ∧
      given.keywords = sofar.keywords ++ Supply.named (supplies.filter (isFree bound)) := by
  induction parameters generalizing sofar before isNamed with
  | nil =>
    cases runs
    exact ⟨[], rfl, by simp, by simp [placed], by simp [Supply.named]⟩
  | cons parameter rest ih =>
    obtain ⟨kind, isNamedLater, sameKind, filtered⟩ :=
      filter_afterPartial_cons bound isNamed parameter rest (fixed _ List.mem_cons_self)
    rw [filtered] at runs
    have fixedLater := fun other isIn => fixed other (List.mem_cons_of_mem parameter isIn)
    have namesLater := fun other isIn => takesNames other (List.mem_cons_of_mem parameter isIn)
    cases isBound : bound.lookup parameter.name with
    | some value =>
      rw [isBound, Option.isNone_some, if_neg Bool.false_ne_true, List.nil_append] at runs
      obtain ⟨supplies, rfl, meets, isPlaced, isNamed⟩ := ih fixedLater namesLater runs
      have passes : isFree bound ⟨parameter, some value⟩ = false := by simp [isFree, isBound]
      have unplaced : Supply.isPlaced ⟨parameter, some value⟩ = false :=
        decide_eq_false (takesNames parameter List.mem_cons_self (by rw [isBound]; rfl))
      refine ⟨⟨parameter, some value⟩ :: supplies, rfl, ?_, ?_, ?_⟩
      · refine List.forall_mem_cons.mpr ⟨?_, meets⟩
        rw [MeetsBeside, isBound]
        exact ⟨unplaced, rfl⟩
      · rw [List.filter_cons_of_neg (by simp [passes]), isPlaced]
      · rw [List.filter_cons_of_neg (by simp [passes]), isNamed]
    | none =>
      rw [isBound, Option.isNone_none, if_pos rfl, List.singleton_append, injectAll] at runs
      obtain ⟨next, between, first, others⟩ := run_bind_eq_ok.mp runs
      obtain ⟨argument, meets, byPlace, byName⟩ := inject_eq_ok first
      obtain ⟨supplies, rfl, each, isPlaced, isNamed⟩ := ih fixedLater namesLater others
      have passes : isFree bound ⟨parameter, argument⟩ = true := by simp [isFree, isBound]
      have samePlace : Supply.isPlaced ⟨{ parameter with kind }, argument⟩ =
          Supply.isPlaced ⟨parameter, argument⟩ := by simp [Supply.isPlaced, sameKind]
      refine ⟨⟨parameter, argument⟩ :: supplies, rfl, ?_, ?_, ?_⟩
      · refine List.forall_mem_cons.mpr ⟨?_, each⟩
        rw [MeetsBeside, isBound]
        exact meets
      · rw [List.filter_cons_of_pos passes, isPlaced, byPlace, List.append_assoc, placed_cons,
          placed_cons, samePlace, List.append_assoc]
        rfl
      · rw [List.filter_cons_of_pos passes, isNamed, byName, List.append_assoc, named_cons,
          named_cons, samePlace, List.append_assoc]
        rfl

/-! ## Where it goes -/

/-- The parameters of a routine without variadic ones; those that only take a position come
first. -/
structure IsSignature (parameters : List CallParameter) : Prop where
  names : (parameters.map CallParameter.name).Nodup
  fixed : ∀ parameter ∈ parameters, parameter.kind.isVariadic = false
  placedFirst : parameters.Pairwise fun earlier later =>
    later.kind = .positionalOnly → earlier.kind = .positionalOnly

/-- A parameter that only takes a position asks for something if one after it does. -/
def AsksGapless (hints : Bindings) (parameters : List CallParameter) : Prop :=
  parameters.Pairwise fun earlier later =>
    later.kind = .positionalOnly → asks hints later → asks hints earlier

/-- Parameters of a routine that may be bound by name beforehand, each at most once. -/
structure Binds (parameters : List CallParameter) (bound : List (String × Value)) : Prop where
  apart : (Entries.keys bound).Nodup
  known : ∀ name ∈ Entries.keys bound, ∃ parameter ∈ parameters,
    parameter.name = name ∧ parameter.kind ≠ .positionalOnly

/-- Among parameters with different names, one that was bound by name can be given by name. -/
theorem Binds.takesName {bound : List (String × Value)} (binds : Binds parameters bound)
    (isSignature : IsSignature parameters) :
    ∀ parameter ∈ parameters, (bound.lookup parameter.name).isSome = true →
      parameter.kind ≠ .positionalOnly := by
  intro parameter isIn isBound
  obtain ⟨value, isValue⟩ := Option.isSome_iff_exists.mp isBound
  obtain ⟨other, isOther, sameName, isNamed⟩ := binds.known parameter.name
    (by
      obtain ⟨front, back, rfl, -⟩ := List.lookup_eq_some_iff.mp isValue
      simp [Entries.keys])
  have same : other = parameter :=
    List.inj_on_of_nodup_map isSignature.names isOther isIn sameName
  exact same ▸ isNamed

section Meeting

variable {bound : List (String × Value)} {supplies : List Supply}

theorem complete_of_meets (isSignature : IsSignature (supplies.map Supply.parameter))
    (meets : ∀ supply ∈ supplies, MeetsBeside bound call world input hints supply) :
    Complete supplies where
  names := by
    have names := isSignature.names
    rwa [List.map_map] at names
  fixed supply isIn := isSignature.fixed _ (List.mem_map_of_mem isIn)
  placedFirst := by
    simpa only [Supply.isPlaced, decide_eq_true_eq] using
      List.pairwise_map.mp isSignature.placedFirst
  filled supply isIn := by
    have meets := meets supply isIn
    rw [MeetsBeside] at meets
    split at meets
    · rw [meets.2, Option.some_or]
      rfl
    · exact meets.filled

theorem gapless_of_meets (isSignature : IsSignature (supplies.map Supply.parameter))
    (meets : ∀ supply ∈ supplies, MeetsBeside bound call world input hints supply)
    (gapless : AsksGapless hints (supplies.map Supply.parameter)) : Gapless supplies := by
  have asksIfPlaced : ∀ supply ∈ supplies, supply.isPlaced = true →
      (supply.argument.isSome = true ↔ asks hints supply.parameter) := by
    intro supply isIn isPlaced
    have meets := meets supply isIn
    rw [MeetsBeside] at meets
    split at meets
    · rw [meets.1] at isPlaced
      cases isPlaced
    · exact meets.isSome_iff
  have placedFirst := (complete_of_meets isSignature meets).placedFirst
  refine (placedFirst.and (List.pairwise_map.mp gapless)).imp_of_mem ?_
  rintro earlier later isEarlier isLater ⟨first, asksBoth⟩ isPlaced
  rw [asksIfPlaced earlier isEarlier (first isPlaced), asksIfPlaced later isLater isPlaced]
  exact asksBoth (of_decide_eq_true isPlaced)

theorem boundTo_of_meets (binds : Binds (supplies.map Supply.parameter) bound)
    (meets : ∀ supply ∈ supplies, MeetsBeside bound call world input hints supply) :
    BoundTo bound supplies where
  apart := binds.apart
  known entry isOne := by
    obtain ⟨_, isTaken, isName, isNamed⟩ := binds.known entry.1 (List.mem_map_of_mem isOne)
    obtain ⟨supply, isIn, rfl⟩ := List.mem_map.mp isTaken
    exact ⟨supply, isIn, decide_eq_false isNamed, isName⟩
  supplied supply isIn value isValue := by
    have meets := meets supply isIn
    rwa [MeetsBeside, isValue] at meets

end Meeting

/-- Where the host runs a routine, some of whose parameters may be bound by name beforehand, each
other parameter that asks for something is bound to what it wants and each one that does not to its
default, as long as no parameter that only takes a position is passed over before another one that
is not. -/
theorem injected_reach_their_parameters {bound : List (String × Value)}
    (isSignature : IsSignature parameters) (binds : Binds parameters bound)
    (isBound : before.boundKeywords system = bound)
    (takes : before.parameters system = .ok (afterPartial bound false parameters 0))
    (runs : (runSystem call world system input).run before = (.ok answer, after)) :
    ∃ (hints : Bindings) (supplies : List Supply) (arguments : Arguments) (start done : Store),
      before.hintsOf (before.behindPartials before.cells.size system) = .ok hints ∧
      supplies.map Supply.parameter = parameters ∧
      (∀ supply ∈ supplies, MeetsBeside bound call world input hints supply) ∧
      (call system arguments).run start = (.ok answer, done) ∧
      Entries.putAll bound arguments.keywords = bound ++ arguments.keywords ∧
      (AsksGapless hints parameters → ∀ owner store,
        (Arguments.bindTo owner parameters
          { arguments with keywords := bound ++ arguments.keywords }).run store =
          (.ok (supplies.map fun supply => (supply.parameter.name, supply.value)), store)) := by
  obtain ⟨hints, taken, injection, given, isHints, isTaken, injects, goesOn⟩ := exists_runWith runs
  obtain rfl := Except.ok.inj (isTaken.symm.trans takes)
  rw [isBound] at injects
  obtain ⟨supplies, rfl, meets, isPlaced, isNamed⟩ :=
    injectAll_eq_ok isSignature.fixed (binds.takesName isSignature) injects
  obtain ⟨_, done, calls, applied⟩ := run_bind_eq_ok.mp goesOn
  obtain ⟨_, _, -, ends⟩ := run_bind_eq_ok.mp applied
  cases ends
  have complete := complete_of_meets isSignature meets
  have isBoundTo := boundTo_of_meets binds meets
  rw [isPlaced, isNamed] at calls
  exact ⟨hints, supplies, _, given, done, isHints, rfl, meets, calls,
    isBoundTo.putAll_eq complete.names, fun gapless owner store =>
      run_bindTo_own owner complete (gapless_of_meets isSignature meets gapless) isBoundTo⟩

/-- A routine of which nothing was bound beforehand takes what it says. -/
theorem afterPartial_nil (fixed : ∀ parameter ∈ parameters, parameter.kind.isVariadic = false) :
    afterPartial [] false parameters 0 = parameters := by
  induction parameters with
  | nil => rfl
  | cons parameter rest ih =>
    have ih := ih fun other isIn => fixed other (List.mem_cons_of_mem _ isIn)
    have fixedFirst := fixed parameter List.mem_cons_self
    obtain ⟨name, kind, default⟩ := parameter
    cases kind with
    | variadic | keywordVariadic => cases fixedFirst
    | positionalOnly | positional | keywordOnly => simp [afterPartial, ih]

/-- The same for a routine itself. -/
theorem injected_reach_their_parameters_of_routine
    (isSignature : IsSignature parameters) (isWhole : before.boundKeywords system = [])
    (takes : before.parameters system = .ok parameters)
    (runs : (runSystem call world system input).run before = (.ok answer, after)) :
    ∃ (hints : Bindings) (supplies : List Supply) (arguments : Arguments) (start done : Store),
      before.hintsOf (before.behindPartials before.cells.size system) = .ok hints ∧
      supplies.map Supply.parameter = parameters ∧
      (∀ supply ∈ supplies, Meets call world input hints supply) ∧
      (call system arguments).run start = (.ok answer, done) ∧
      (AsksGapless hints parameters → ∀ owner store,
        (Arguments.bindTo owner parameters arguments).run store =
          (.ok (supplies.map fun supply => (supply.parameter.name, supply.value)), store)) := by
  rw [← afterPartial_nil isSignature.fixed] at takes
  have nothing : Binds parameters [] := ⟨List.nodup_nil, by simp [Entries.keys]⟩
  obtain ⟨hints, supplies, arguments, start, done, isHints, same, meets, calls, -, reach⟩ :=
    injected_reach_their_parameters isSignature nothing isWhole takes runs
  exact ⟨hints, supplies, arguments, start, done, isHints, same, meets, calls, reach⟩

/-- A module with a routine whose two parameters only take a position: the first one asks for
nothing and has a default, the second one asks for the world. -/
def shiftingStore : Store where
  modules := { made := [("game_mod", [])], listed := ["game_mod"] }
  cells := #[
    { object := .dict [(.ofText "limit", .ofText "int"), (.ofText "world", .ofText "World")] },
    { object := .scope "game_mod" [] },
    { object := .function
        { name := "route", qualname := "route", home := .ofText "game_mod", doc := .absent
          parameters := [{ name := "limit", kind := .positionalOnly, default := some (.ofInt 1) },
            { name := "world", kind := .positionalOnly, default := some .absent }]
          annotations := .object ClassId.dict 0
          body := .script (.tuple [.variable "limit", .variable "world"]) 1
          names := [("int", .cls ClassId.int), ("World", .cls ClassId.world)] } }]

/-- Run the routine on a new world. -/
def runShifting : Action Value := do
  let world ← (Action.machine 20).call (.ofClass ClassId.world) {}
  runSystem (Action.machine 20).call world (.object ClassId.function 2) none

/-- The parameter that was passed over is bound to the world, the one that asked for it is not. -/
theorem shifting_binds_the_wrong_parameter :
    (match (runShifting.run shiftingStore).1 with
      | .ok (.tuple [.object id _, .absent] _) => decide (id = ClassId.world)
      | _ => false) = true := by
  decide +kernel

end Action

end Deferred
