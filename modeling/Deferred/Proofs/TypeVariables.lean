import Deferred.Proofs.FieldOrder
import Deferred.Proofs.Occurrences

/-!
# The type parameters of a record

The record of a routine that declares no type parameters is generic over the type variables in the
annotations of its parameters, in the order in which they occur first.  Types are looked into from
left to right and to any depth, and so are the notes inside a type, but not those around a whole
annotation.  What a function type takes is a list and no type, so a variable that occurs nowhere else
is no type parameter; every other variable of a field is one.
-/

namespace Deferred

namespace Value

mutual

/-- The type variables in a type and in the notes inside it, from left to right and as often as they
occur, but for those in what a function takes. -/
def mentions : Value → List String
  | typeVariable name => [name]
  | applied origin arguments _ =>
    if origin = ClassId.callable then lastMentions arguments else allMentions arguments
  | optional inner => mentions inner
  | classVar inner => mentions inner
  | annotated inner notes => mentions inner ++ allMentions notes
  | _ => []

def allMentions : List Value → List String
  | [] => []
  | type :: rest => mentions type ++ allMentions rest

def lastMentions : List Value → List String
  | [] => []
  | [type] => mentions type
  | _ :: next :: rest => lastMentions (next :: rest)

end

mutual

/-- Collecting the variables of a type adds them one by one. -/
theorem collectMentioned_eq (type : Value) (found : List String) :
    type.collectMentioned found = type.mentions.foldl addName found := by
  cases type with
  | typeVariable name => rfl
  | applied origin arguments mark =>
    rw [collectMentioned, mentions]
    split
    · exact collectLastMentioned_eq arguments found
    · exact collectAllMentioned_eq arguments found
  | optional inner => exact collectMentioned_eq inner found
  | classVar inner => exact collectMentioned_eq inner found
  | annotated inner notes =>
    rw [collectMentioned, mentions, List.foldl_append, collectMentioned_eq inner found]
    exact collectAllMentioned_eq notes _
  | _ => rfl
termination_by sizeOf type

theorem collectAllMentioned_eq (types : List Value) (found : List String) :
    collectAllMentioned types found = (allMentions types).foldl addName found := by
  cases types with
  | nil => rfl
  | cons type rest =>
    rw [collectAllMentioned, allMentions, List.foldl_append, collectMentioned_eq type found]
    exact collectAllMentioned_eq rest _
termination_by sizeOf types

theorem collectLastMentioned_eq (types : List Value) (found : List String) :
    collectLastMentioned types found = (lastMentions types).foldl addName found := by
  match types with
  | [] => rfl
  | [type] => exact collectMentioned_eq type found
  | _ :: next :: rest => exact collectLastMentioned_eq (next :: rest) found
termination_by sizeOf types

end

theorem firstEach_foldl_addName {seen found : List String} (firsts : FirstEach seen found)
    (names : List String) : FirstEach (seen ++ names) (names.foldl addName found) := by
  induction names generalizing seen found with
  | nil => rwa [List.append_nil]
  | cons name rest ih =>
    rw [List.append_cons, List.foldl_cons, addName]
    cases isMet : found.contains name with
    | true => exact ih (firsts.skip (List.contains_iff_mem.mp isMet))
    | false =>
      refine ih (firsts.add fun isKept => Bool.false_ne_true (isMet.symm.trans ?_))
      exact List.contains_iff_mem.mpr isKept

end Value

namespace Signature

/-- The type variables in the annotations of some parameters, from left to right and as often as
they occur. -/
def mentions (parameters : List Parameter) : List String :=
  parameters.flatMap fun parameter => (parameter.hint.map Value.mentions).getD []

theorem mentioned_eq (parameters : List Parameter) :
    mentioned parameters = (mentions parameters).foldl Value.addName [] := by
  unfold mentioned
  generalize ([] : List String) = found
  induction parameters generalizing found with
  | nil => rfl
  | cons parameter rest ih =>
    rw [List.foldl_cons, ih]
    unfold mentions
    rw [List.flatMap_cons, List.foldl_append]
    cases parameter.hint with
    | none => rfl
    | some type =>
      exact congrArg (List.foldl Value.addName · _) (Value.collectMentioned_eq type found)

/-- The variables that parameters mention are those that occur, each once and in the order of the
first occurrences. -/
theorem firstEach_mentioned (parameters : List Parameter) :
    FirstEach (mentions parameters) (mentioned parameters) := by
  rw [mentioned_eq]
  exact Value.firstEach_foldl_addName .nil (mentions parameters)

/-- The type parameters of a routine that declares none are the variables that it mentions. -/
theorem exists_generics {around : Hint.Scope} {routine : Routine} {signature : Signature}
    (undeclared : routine.typeParameters = [])
    (reads : ofRoutine around routine = .ok signature) :
    ∃ names, signature.generics = names.map .typeVariable ∧
      FirstEach (mentions signature.parameters) names := by
  refine ⟨mentioned signature.parameters, ?_, firstEach_mentioned signature.parameters⟩
  simp only [ofRoutine] at reads
  split at reads
  · cases reads
  · split at reads
    · cases reads
    · split at reads
      · cases reads
      · simp only [ofHints, undeclared, List.isEmpty_nil, if_true] at reads
        split at reads
        · cases reads
        · cases reads
          rfl

theorem mem_mentions {parameters : List Parameter} {parameter : Parameter} {type : Value}
    {name : String} (isIn : parameter ∈ parameters) (isHint : parameter.hint = some type)
    (isMentioned : name ∈ type.mentions) : name ∈ mentions parameters := by
  refine List.mem_flatMap.mpr ⟨parameter, isIn, ?_⟩
  rw [isHint]
  exact isMentioned

end Signature

/-! ## The fields of a record -/

namespace Value

variable {type first : Value} {types rest : List Value} {name : String}

theorem allMentions_eq (types : List Value) : allMentions types = types.flatMap mentions := by
  induction types with
  | nil => rfl
  | cons type rest ih => rw [allMentions, List.flatMap_cons, ih]

/-- What is mentioned in the first type between brackets is mentioned in the whole type, unless that
is the type of a function. -/
theorem mem_mentions_of_arguments (apart : type.origin ≠ .cls ClassId.callable)
    (isFirst : type.arguments = first :: rest) (isMentioned : name ∈ first.mentions) :
    name ∈ type.mentions := by
  cases type with
  | applied origin arguments mark =>
    obtain rfl : arguments = first :: rest := isFirst
    have notFunction : origin ≠ ClassId.callable := fun same => apart (congrArg Value.cls same)
    rw [mentions, if_neg notFunction]
    exact List.mem_append_left _ isMentioned
  | optional inner =>
    cases isFirst
    exact isMentioned
  | classVar inner =>
    cases isFirst
    exact isMentioned
  | annotated inner notes =>
    cases isFirst
    exact List.mem_append_left _ isMentioned
  | _ => cases isFirst

end Value

namespace Classification

/-- The types that an input carries mention nothing that its annotation does not mention. -/
theorem exists_hint_of_carriedTypes {hint : Option Value} {type : Value} {name : String}
    (apart : ∀ whole, hint = some whole → whole.origin ≠ .cls ClassId.callable)
    (isCarried : type ∈ (carriedTypes hint).1) (isMentioned : name ∈ type.mentions) :
    ∃ whole, hint = some whole ∧ name ∈ whole.mentions := by
  unfold carriedTypes at isCarried
  extract_lets inner at isCarried
  have isInner : name ∈ inner.mentions := by
    clear_value inner
    split at isCarried
    · split at isCarried
      · rename_i id elements _ isTuple
        obtain rfl : id = ClassId.tuple := by simp at isTuple; exact isTuple.1.1
        rw [Value.mentions, if_neg (by decide), Value.allMentions_eq]
        exact List.mem_flatMap.mpr ⟨type, isCarried, isMentioned⟩
      · rwa [List.mem_singleton.mp isCarried] at isMentioned
    · rwa [List.mem_singleton.mp isCarried] at isMentioned
  cases hint with
  | none => cases isInner
  | some whole =>
    refine ⟨whole, rfl, ?_⟩
    cases between : whole.arguments with
    | nil =>
      simp only [inner, Option.map_some, between] at isInner
      cases isInner
    | cons first rest =>
      simp only [inner, Option.map_some, between] at isInner
      exact Value.mem_mentions_of_arguments (apart whole rfl) between isInner

end Classification

namespace Plan

open Classification

variable {plan : Plan} {field : Field} {name : String}

/-- The type of a field of the input is one that the input carries, or the tuple of them all. -/
theorem type_of_mem_threaded {piped : PipedInput} {entry : String × Value}
    (isThreaded : entry ∈ piped.threaded) :
    entry.2 ∈ piped.types ∨ entry.2 = .applied ClassId.tuple piped.types 0 := by
  rw [PipedInput.threaded] at isThreaded
  split at isThreaded
  · obtain ⟨_, -, rfl⟩ := List.mem_map.mp isThreaded
    exact .inr rfl
  · have isZipped : entry ∈ piped.names.zip piped.types := by
      unfold PipedInput.dropAt at isThreaded
      split at isThreaded
      · exact isThreaded
      · exact List.mem_of_mem_eraseIdx isThreaded
    exact .inl (List.of_mem_zip isZipped).2

/-- What the type of a field mentions is mentioned in the annotation of a parameter. -/
theorem exists_parameter_of_mem_fields (accepted : plan.Accepted)
    (apart : Host.denotes plan.host.input (.cls ClassId.callable) = false)
    (isField : field ∈ plan.fields) (isMentioned : name ∈ field.hint.mentions) :
    ∃ parameter ∈ plan.signature.parameters, ∃ type, parameter.hint = some type ∧
      name ∈ type.mentions := by
  obtain ⟨⟨parameter, role⟩, isRole, isField⟩ := List.mem_flatMap.mp isField
  refine ⟨parameter, accepted.mem_parameters isRole, ?_⟩
  cases role with
  | capturedField =>
    obtain rfl := List.mem_singleton.mp isField
    cases isHint : parameter.hint with
    | none =>
      rw [isHint] at isMentioned
      cases isMentioned
    | some type =>
      rw [isHint] at isMentioned
      exact ⟨type, rfl, isMentioned⟩
  | pipedInput =>
    obtain ⟨piped, isPiped, isParameter⟩ := (accepted.sorts.piped parameter).mp isRole
    rw [isPiped, fieldsOf] at isField
    obtain ⟨entry, isThreaded, rfl⟩ := List.mem_map.mp isField
    obtain ⟨isInput, -, -⟩ := parseInput_eq_ok.mp (accepted.sorts.parsed piped isPiped)
    have types : piped.types = (carriedTypes parameter.hint).1 := by
      rw [isInput, isParameter]
      rfl
    obtain ⟨type, isCarried, isIn⟩ : ∃ type ∈ piped.types, name ∈ type.mentions := by
      rcases type_of_mem_threaded isThreaded with isOne | isAll
      · exact ⟨entry.2, isOne, isMentioned⟩
      · change name ∈ entry.2.mentions at isMentioned
        rw [isAll, Value.mentions, if_neg (by decide), Value.allMentions_eq] at isMentioned
        exact List.mem_flatMap.mp isMentioned
    refine exists_hint_of_carriedTypes (fun whole isHint isFunction => ?_) (types ▸ isCarried) isIn
    have isInput : denotes plan.host.input (parameter.hint.map Value.origin) = true :=
      accepted.sorts.suits parameter .pipedInput isRole
    rw [isHint, Option.map_some, isFunction] at isInput
    exact Bool.false_ne_true (apart.symm.trans isInput)
  | _ => cases isField

/-- The record of a routine that declares no type parameters is generic over every type variable
that one of its fields mentions. -/
theorem mem_generics_of_mem_fields {around : Surroundings} {routine : Routine} {raw : Options.Raw}
    {forEntity : Bool} {body : Value} (undeclared : routine.typeParameters = [])
    (runs : build around (.routine routine) raw forEntity body = .ok plan)
    (apart : Host.denotes plan.host.input (.cls ClassId.callable) = false)
    (isField : field ∈ plan.fields) (isMentioned : name ∈ field.hint.mentions) :
    .typeVariable name ∈ plan.signature.generics := by
  obtain ⟨accepted, -, -, reads, -⟩ := accepted_of_build runs
  obtain ⟨names, isGeneric, firsts⟩ := Signature.exists_generics undeclared reads
  obtain ⟨parameter, isParameter, type, isHint, isIn⟩ :=
    exists_parameter_of_mem_fields accepted apart isField isMentioned
  rw [isGeneric]
  exact List.mem_map_of_mem
    ((firsts.same name).mpr (Signature.mem_mentions isParameter isHint isIn))

/-- A variable that a routine mentions only in what a function takes is no type parameter. -/
example : Signature.mentioned
    [{ name := "handler", kind := .positional, default := none, pattern := none
       hint := some (.applied ClassId.callable [.typeVariable "T", .cls ClassId.int] 0) }] = [] := by
  decide +kernel

end Plan

end Deferred
