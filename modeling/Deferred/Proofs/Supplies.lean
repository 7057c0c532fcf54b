import Deferred.Proofs.Arguments
import Deferred.Proofs.Bindings

/-!
# Supplied parameters

Values that were collected for the parameters of a routine are given to it by position where the
parameter takes nothing else, and by name otherwise; the parameters that nothing was collected for
are left out.  Each value reaches the parameter that it was collected for as long as no parameter
that only takes a position is left out before another one.  A parameter that was left out leaves no
gap among the values given by position, so it is filled with the next of them.
-/

namespace Deferred

/-- A parameter with the value that was collected for it, if any was. -/
structure Supply where
  parameter : CallParameter
  argument : Option Value

namespace Supply

/-- Is the value given by position? -/
def isPlaced (supply : Supply) : Bool := supply.parameter.kind = .positionalOnly

/-- What the parameter is filled with if each value reaches the parameter that it was collected
for. -/
def value (supply : Supply) : Value := (supply.argument.or supply.parameter.default).getD .absent

/-- What is filled when each value reaches its parameter. -/
def own (supply : Supply) : String × Filling := (supply.parameter.name, .value supply.value)

/-- The values that are given by position. -/
def placed (supplies : List Supply) : List Value :=
  (supplies.filter isPlaced).filterMap argument

/-- The values that are given by name. -/
def named (supplies : List Supply) : List (String × Value) :=
  (supplies.filter (!·.isPlaced)).filterMap fun supply =>
    supply.argument.map (supply.parameter.name, ·)

/-- Parameters of a routine without variadic ones, each of which is supplied or has a default. -/
structure Complete (supplies : List Supply) : Prop where
  names : (supplies.map (·.parameter.name)).Nodup
  fixed : ∀ supply ∈ supplies, supply.parameter.kind.isVariadic = false
  /-- Parameters that only take a position come before all others. -/
  placedFirst : supplies.Pairwise fun earlier later =>
    later.isPlaced = true → earlier.isPlaced = true
  filled : ∀ supply ∈ supplies, (supply.argument.or supply.parameter.default).isSome = true

/-- No parameter that only takes a position was passed over before another one that was supplied. -/
def Gapless (supplies : List Supply) : Prop :=
  supplies.Pairwise fun earlier later =>
    later.isPlaced = true → later.argument.isSome = true → earlier.argument.isSome = true

variable {supply : Supply} {supplies rest : List Supply} {keywords extra : List (String × Value)}

theorem Complete.tail (complete : Complete (supply :: rest)) : Complete rest where
  names := (List.nodup_cons.mp complete.names).2
  fixed other isIn := complete.fixed other (List.mem_cons_of_mem _ isIn)
  placedFirst := (List.pairwise_cons.mp complete.placedFirst).2
  filled other isIn := complete.filled other (List.mem_cons_of_mem _ isIn)

theorem takesName_eq (fixed : supply.parameter.kind.isVariadic = false) :
    Arguments.takesName supply.parameter = !supply.isPlaced := by
  rw [Arguments.takesName, isPlaced]
  cases kind : supply.parameter.kind <;> simp_all [ParameterKind.isVariadic]

/-- A parameter that only takes a position takes the next value that is given by position. -/
theorem fill_placed {argument : Value} {others : List Value} (isPlaced : supply.isPlaced = true) :
    Arguments.fill keywords extra (supply.parameter :: rest.map parameter) (argument :: others) =
      (Arguments.fill keywords extra (rest.map parameter) others).map
        ((supply.parameter.name, .value argument) :: ·) := by
  have kind : supply.parameter.kind = .positionalOnly := of_decide_eq_true isPlaced
  have unnamed : Arguments.takesName supply.parameter = false := by simp [Arguments.takesName, kind]
  have takes : Arguments.takesPosition supply.parameter = true := by
    simp [Arguments.takesPosition, kind]
  simp only [Arguments.fill, kind, unnamed, takes, Bool.false_eq_true, if_false]

/-- Where no value is given by position any more, a parameter is filled by name, else with its
default. -/
theorem fill_unplaced (fixed : supply.parameter.kind.isVariadic = false)
    (isNamed : supply.isPlaced = false → keywords.lookup supply.parameter.name = supply.argument)
    (passed : supply.isPlaced = true → supply.argument = none)
    (filled : (supply.argument.or supply.parameter.default).isSome = true) :
    Arguments.fill keywords extra (supply.parameter :: rest.map parameter) [] =
      (Arguments.fill keywords extra (rest.map parameter) []).map (supply.own :: ·) := by
  have byName : (if Arguments.takesName supply.parameter then
      keywords.lookup supply.parameter.name else none) = supply.argument := by
    rw [takesName_eq fixed]
    cases isPlaced : supply.isPlaced with
    | true => exact (passed isPlaced).symm
    | false => exact isNamed isPlaced
  have filling : Arguments.fill keywords extra (supply.parameter :: rest.map parameter) [] =
      (supply.argument.or supply.parameter.default).bind fun value =>
        (Arguments.fill keywords extra (rest.map parameter) []).map
          ((supply.parameter.name, .value value) :: ·) := by
    cases kind : supply.parameter.kind with
    | variadic | keywordVariadic => simp [kind, ParameterKind.isVariadic] at fixed
    | positionalOnly | positional | keywordOnly =>
      simp only [Arguments.fill, kind, byName]
      cases supply.argument <;> cases Arguments.takesPosition supply.parameter <;> rfl
  obtain ⟨value, isValue⟩ := Option.isSome_iff_exists.mp filled
  rw [filling, isValue, Option.bind_some, own, Supply.value, isValue, Option.getD_some]

theorem placed_cons (supply : Supply) (rest : List Supply) :
    placed (supply :: rest) =
      (if supply.isPlaced then supply.argument.toList else []) ++ placed rest := by
  cases isPlaced : supply.isPlaced <;> cases isSupplied : supply.argument <;>
    simp [placed, isPlaced, isSupplied]

theorem named_cons (supply : Supply) (rest : List Supply) :
    named (supply :: rest) =
      (if supply.isPlaced then [] else (supply.argument.map (supply.parameter.name, ·)).toList) ++
        named rest := by
  cases isPlaced : supply.isPlaced <;> cases isSupplied : supply.argument <;>
    simp [named, isPlaced, isSupplied]

theorem placed_eq_nil (passed : ∀ supply ∈ supplies, supply.isPlaced = true →
    supply.argument = none) : placed supplies = [] := by
  refine List.filterMap_eq_nil_iff.mpr fun supply isOne => ?_
  obtain ⟨isIn, isPlaced⟩ := List.mem_filter.mp isOne
  exact passed supply isIn isPlaced

/-- Each value reaches the parameter that it was collected for, if no parameter was passed over. -/
theorem fill_own (complete : Complete supplies) (gapless : Gapless supplies)
    (isNamed : ∀ supply ∈ supplies, supply.isPlaced = false →
      keywords.lookup supply.parameter.name = supply.argument) :
    Arguments.fill keywords extra (supplies.map parameter) (placed supplies) =
      some (supplies.map own) := by
  induction supplies with
  | nil => rfl
  | cons supply rest ih =>
    obtain ⟨gaplessHere, gaplessRest⟩ := List.pairwise_cons.mp gapless
    have ih := ih complete.tail gaplessRest fun other isIn =>
      isNamed other (List.mem_cons_of_mem _ isIn)
    have unplaced : (supply.isPlaced = true → supply.argument = none) →
        Arguments.fill keywords extra ((supply :: rest).map parameter) (placed (supply :: rest)) =
          some ((supply :: rest).map own) := by
      intro passed
      -- From here on nothing is given by position.
      have ends : ∀ other ∈ supply :: rest, other.isPlaced = true → other.argument = none := by
        intro other isOne isPlaced
        rcases List.mem_cons.mp isOne with rfl | isLater
        · exact passed isPlaced
        · have isFirst := (List.pairwise_cons.mp complete.placedFirst).1 other isLater isPlaced
          rw [← Option.not_isSome_iff_eq_none]
          intro isSupplied
          have unsupplied := gaplessHere other isLater isPlaced isSupplied
          rw [passed isFirst] at unsupplied
          cases unsupplied
      rw [placed_eq_nil fun other isLater => ends other (List.mem_cons_of_mem _ isLater)] at ih
      rw [placed_eq_nil ends, List.map_cons, List.map_cons,
        fill_unplaced (complete.fixed _ List.mem_cons_self) (isNamed _ List.mem_cons_self) passed
          (complete.filled _ List.mem_cons_self), ih, Option.map_some]
    cases isPlaced : supply.isPlaced with
    | false => exact unplaced (by simp [isPlaced])
    | true =>
      cases isSupplied : supply.argument with
      | none => exact unplaced fun _ => isSupplied
      | some argument =>
        rw [placed_cons, isPlaced, if_pos rfl, isSupplied, Option.toList_some,
          List.singleton_append, List.map_cons, fill_placed isPlaced, ih, Option.map_some,
          List.map_cons]
        simp [own, value, isSupplied]

/-- A parameter that only takes a position and was passed over is filled with the next value that
was collected for a parameter after it. -/
theorem fill_shifts {leading filled : List _} {skipped : Supply} {next : Value}
    {others : List Value}
    (ledBy : ∀ supply ∈ leading, supply.isPlaced = true ∧ supply.argument.isSome = true)
    (isPlaced : skipped.isPlaced = true) (passed : skipped.argument = none)
    (follows : placed rest = next :: others)
    (fills : Arguments.fill keywords extra ((leading ++ skipped :: rest).map parameter)
      (placed (leading ++ skipped :: rest)) = some filled) :
    ∃ tail, filled =
      leading.map own ++ (skipped.parameter.name, .value next) :: tail := by
  induction leading generalizing filled with
  | nil =>
    have same : placed (skipped :: rest) = next :: others := by simp [placed_cons, passed, follows]
    rw [List.nil_append, same, List.map_cons, fill_placed isPlaced, Option.map_eq_some_iff] at fills
    obtain ⟨tail, -, rfl⟩ := fills
    exact ⟨tail, rfl⟩
  | cons supply leading ih =>
    obtain ⟨isFirst, isSupplied⟩ := ledBy supply List.mem_cons_self
    obtain ⟨argument, isArgument⟩ := Option.isSome_iff_exists.mp isSupplied
    rw [List.cons_append, placed_cons, isFirst, if_pos rfl, isArgument, Option.toList_some,
      List.singleton_append, List.map_cons, fill_placed isFirst, Option.map_eq_some_iff] at fills
    obtain ⟨later, fills, rfl⟩ := fills
    obtain ⟨tail, rfl⟩ := ih (fun other isIn => ledBy other (List.mem_cons_of_mem _ isIn)) fills
    exact ⟨tail, by simp [own, value, isArgument]⟩

/-- Only values that were collected for a parameter of a name are given by that name. -/
theorem name_of_mem_named {entry : String × Value} (isOne : entry ∈ named supplies) :
    ∃ supply ∈ supplies, supply.isPlaced = false ∧ supply.parameter.name = entry.1 ∧
      supply.argument = some entry.2 := by
  obtain ⟨supply, isSupply, isArgument⟩ := List.mem_filterMap.mp isOne
  obtain ⟨isIn, unplaced⟩ := List.mem_filter.mp isSupply
  obtain ⟨argument, isSupplied, rfl⟩ := Option.map_eq_some_iff.mp isArgument
  exact ⟨supply, isIn, by simpa using unplaced, rfl, isSupplied⟩

theorem lookup_named_of_notMem {name : String} (isOut : name ∉ supplies.map (·.parameter.name)) :
    (named supplies).lookup name = none := by
  rw [List.lookup_eq_none_iff]
  rintro entry isOne
  obtain ⟨supply, isIn, -, isName, -⟩ := name_of_mem_named isOne
  refine bne_iff_ne.mpr ?_
  rintro rfl
  exact isOut (List.mem_map.mpr ⟨supply, isIn, isName⟩)

/-- What is given by name is found under the name of the parameter that it was collected for. -/
theorem lookup_named (names : (supplies.map (·.parameter.name)).Nodup) :
    ∀ supply ∈ supplies, supply.isPlaced = false →
      (named supplies).lookup supply.parameter.name = supply.argument := by
  induction supplies with
  | nil => simp
  | cons first rest ih =>
    obtain ⟨isNew, apart⟩ := List.nodup_cons.mp names
    intro supply isOne unplaced
    rcases List.mem_cons.mp isOne with rfl | isLater
    · cases isSupplied : supply.argument with
      | none => simp [named_cons, unplaced, isSupplied, lookup_named_of_notMem isNew]
      | some argument => simp [named_cons, unplaced, isSupplied]
    · have differs : supply.parameter.name ≠ first.parameter.name := fun same =>
        isNew (List.mem_map.mpr ⟨supply, isLater, same⟩)
      have same : (named (first :: rest)).lookup supply.parameter.name =
          (named rest).lookup supply.parameter.name := by
        cases isPlaced : first.isPlaced <;> cases isSupplied : first.argument <;>
          simp [named_cons, isPlaced, isSupplied, List.lookup_cons, beq_false_of_ne differs]
      rw [same, ih apart supply isLater unplaced]

theorem keys_named_sublist (supplies : List Supply) :
    (Entries.keys (named supplies)).Sublist (supplies.map (·.parameter.name)) := by
  induction supplies with
  | nil => exact .slnil
  | cons first rest ih =>
    cases isPlaced : first.isPlaced <;> cases isSupplied : first.argument <;>
      simp only [named_cons, isPlaced, isSupplied, Entries.keys] at ih ⊢
    · exact .cons _ ih
    · exact .cons_cons _ ih
    · exact .cons _ ih
    · exact .cons _ ih

/-- Nothing that is given by name is left over, if a parameter can be given by each of the names. -/
theorem leftover_eq_nil (fixed : ∀ supply ∈ supplies, supply.parameter.kind.isVariadic = false)
    (known : ∀ entry ∈ keywords, ∃ supply ∈ supplies, supply.isPlaced = false ∧
      supply.parameter.name = entry.1) :
    Arguments.leftover (supplies.map parameter) keywords = [] := by
  rw [Arguments.leftover, List.filter_eq_nil_iff]
  intro entry isOne
  obtain ⟨supply, isIn, unplaced, isName⟩ := known entry isOne
  have takes : ((supplies.map parameter).any fun parameter =>
      Arguments.takesName parameter && parameter.name = entry.1) = true := by
    refine List.any_eq_true.mpr ⟨supply.parameter, List.mem_map_of_mem isIn, ?_⟩
    simp [takesName_eq (fixed supply isIn), unplaced, isName]
  simp [takes]

/-! ## Parameters that were bound beforehand -/

/-- Was the parameter not bound beforehand? -/
def isFree (bound : List (String × Value)) (supply : Supply) : Bool :=
  (bound.lookup supply.parameter.name).isNone

/-- Values that parameters were bound to by name beforehand. -/
structure BoundTo (bound : List (String × Value)) (supplies : List Supply) : Prop where
  apart : (Entries.keys bound).Nodup
  known : ∀ entry ∈ bound, ∃ supply ∈ supplies, supply.isPlaced = false ∧
    supply.parameter.name = entry.1
  supplied : ∀ supply ∈ supplies, ∀ value, bound.lookup supply.parameter.name = some value →
    supply.isPlaced = false ∧ supply.argument = some value

variable {bound : List (String × Value)}

theorem BoundTo.placed_eq (isBound : BoundTo bound supplies) :
    placed (supplies.filter (isFree bound)) = placed supplies := by
  rw [placed, placed, List.filter_filter]
  refine congrArg _ (List.filter_congr fun supply isIn => ?_)
  cases isValue : bound.lookup supply.parameter.name with
  | none => simp [isFree, isValue]
  | some value => simp [(isBound.supplied supply isIn value isValue).1]

/-- What was bound beforehand and what is given by name do not meet. -/
theorem BoundTo.putAll_eq (isBound : BoundTo bound supplies)
    (names : (supplies.map (·.parameter.name)).Nodup) :
    Entries.putAll bound (named (supplies.filter (isFree bound))) =
      bound ++ named (supplies.filter (isFree bound)) := by
  apply Entries.putAll_of_nodup
  rw [Entries.keys, List.map_append, List.nodup_append]
  refine ⟨isBound.apart, ?_, ?_⟩
  · exact names.sublist ((keys_named_sublist _).trans (List.filter_sublist.map _))
  · rintro name isOld other isNew rfl
    obtain ⟨entry, isEntry, rfl⟩ := List.mem_map.mp isNew
    obtain ⟨supply, isIn, -, isName, -⟩ := name_of_mem_named isEntry
    have free : bound.lookup supply.parameter.name = none := by
      simpa [isFree] using (List.mem_filter.mp isIn).2
    obtain ⟨old, isOld, same⟩ := List.mem_map.mp isOld
    have differs := List.lookup_eq_none_iff.mp free old isOld
    simp [isName, same] at differs

/-- What is collected for the parameters of a routine is bound to the parameters that it was
collected for, what was bound beforehand stays, and the other parameters are bound to their
defaults. -/
theorem run_bindTo_own {store : Store} (owner : String) (complete : Complete supplies)
    (gapless : Gapless supplies) (isBound : BoundTo bound supplies) :
    (Arguments.bindTo owner (supplies.map parameter)
      { positional := placed (supplies.filter (isFree bound))
        keywords := bound ++ named (supplies.filter (isFree bound)) }).run store =
      (.ok (supplies.map fun supply => (supply.parameter.name, supply.value)), store) := by
  rw [isBound.placed_eq]
  have known : ∀ entry ∈ bound ++ named (supplies.filter (isFree bound)), ∃ supply ∈ supplies,
      supply.isPlaced = false ∧ supply.parameter.name = entry.1 := by
    intro entry isOne
    rcases List.mem_append.mp isOne with isOld | isNew
    · exact isBound.known entry isOld
    · obtain ⟨supply, isIn, unplaced, isName, -⟩ := name_of_mem_named isNew
      exact ⟨supply, (List.mem_filter.mp isIn).1, unplaced, isName⟩
  have finds : ∀ supply ∈ supplies, supply.isPlaced = false →
      (bound ++ named (supplies.filter (isFree bound))).lookup supply.parameter.name =
        supply.argument := by
    intro supply isIn unplaced
    rw [List.lookup_append]
    cases isValue : bound.lookup supply.parameter.name with
    | some value => rw [Option.some_or, (isBound.supplied supply isIn value isValue).2]
    | none =>
      have free : supply ∈ supplies.filter (isFree bound) :=
        List.mem_filter.mpr ⟨isIn, by simp [isFree, isValue]⟩
      rw [Option.none_or]
      exact lookup_named (complete.names.sublist (List.filter_sublist.map _)) supply free unplaced
  have fits : Arguments.fit? (supplies.map parameter)
      { positional := placed supplies
        keywords := bound ++ named (supplies.filter (isFree bound)) } =
        some (supplies.map own) := by
    rw [Arguments.fit?, leftover_eq_nil complete.fixed known]
    exact fill_own complete gapless finds
  rw [Arguments.bindTo, fits]
  have values := @Arguments.run_values_filled store
    (supplies.map fun supply => (supply.parameter.name, supply.value))
  rw [List.map_map] at values
  exact values

end Supply

end Deferred
