import Deferred.Generation.Fragments
import Deferred.Proofs.Plans
import Deferred.Store.Object
import Std.Data.String.ToNat

/-!
# What code is run among

Everything that the code of a command uses is bound to a reserved name beside the code.  Printing
the code changes none of these bindings, and fragments are put together only where every name means
one thing, so that each use is bound to what it stands for.
-/

namespace Deferred

open Text

namespace Code

/-! ## Printing -/

section Printing

variable {ν : Type}

theorem bindings_emitDecorators (decorators : List Expr) (emitter : Emitter ν) :
    (Statement.emitDecorators decorators emitter).bindings = emitter.bindings := by
  induction decorators generalizing emitter with
  | nil => rfl
  | cons decorator rest ih => exact ih _

mutual

theorem bindings_emit (statement : Statement) (emitter : Emitter ν) :
    (statement.emit emitter).bindings = emitter.bindings := by
  cases statement with
  | field name hint value => cases value <;> rfl
  | doc text =>
    rw [Statement.emit, Emitter.doc]
    split <;> rfl
  | define decorators name parameters body =>
    exact (bindings_emitAll body _).trans (bindings_emitDecorators decorators emitter)
  | declare decorators name bases body =>
    exact (bindings_emitAll body _).trans (bindings_emitDecorators decorators emitter)
  | choose branches => exact bindings_emitBranches "if" branches emitter
  | _ => rfl

theorem bindings_emitAll (statements : List Statement) (emitter : Emitter ν) :
    (Statement.emitAll statements emitter).bindings = emitter.bindings := by
  cases statements with
  | nil => rfl
  | cons statement rest =>
    exact (bindings_emitAll rest _).trans (bindings_emit statement emitter)

theorem bindings_emitBranches (keyword : String) (branches : List (Expr × List Statement))
    (emitter : Emitter ν) :
    (Statement.emitBranches keyword branches emitter).bindings = emitter.bindings := by
  cases branches with
  | nil => rfl
  | cons branch rest =>
    obtain ⟨condition, body⟩ := branch
    exact (bindings_emitBranches "elif" rest _).trans (bindings_emitAll body _)

end

end Printing

/-! ## Binding -/

theorem reserved_inj {name other : String} : reserved name = reserved other ↔ name = other := by
  simp [reserved]

variable {all uses : List Use} {bindings bound : Bindings}

/-- Uses of one name stand for one value. -/
def Agree (uses : List Use) : Prop :=
  ∀ use ∈ uses, ∀ other ∈ uses, use.1 = other.1 → use.2 = other.2

/-- Every binding is the one of a use. -/
def FromUses (all : List Use) (bindings : Bindings) : Prop :=
  ∀ entry ∈ bindings, ∃ use ∈ all, entry = (reserved use.1, use.2)

/-- Bindings that a step added to, without a change of those that were there. -/
structure Extends (all : List Use) (before after : Bindings) : Prop where
  fromUses : FromUses all after
  kept : ∀ name value, Entries.get? before name = some value →
    Entries.get? after name = some value

theorem Extends.trans {before between after : Bindings} (first : Extends all before between)
    (second : Extends all between after) : Extends all before after where
  fromUses := second.fromUses
  kept name value isBound := second.kept name value (first.kept name value isBound)

theorem bindAs_eq_ok (agree : Agree all) (fromUses : FromUses all bindings) {use : Use}
    (isUse : use ∈ all)
    (binds : Emitter.bindAs bindings (reserved use.1) use.2 = .ok bound) :
    Extends all bindings bound ∧ Entries.get? bound (reserved use.1) = some use.2 := by
  rw [Emitter.bindAs] at binds
  cases isThere : Entries.get? bindings (reserved use.1) with
  | some value =>
    simp only [isThere] at binds
    obtain ⟨other, isOther, same⟩ := fromUses _ (Entries.mem_of_get? isThere)
    simp only [Prod.mk.injEq, reserved_inj] at same
    have sameValue := agree use isUse other isOther same.1
    split at binds
    · cases binds
      refine ⟨⟨fromUses, fun _ _ isBound => isBound⟩, ?_⟩
      rw [isThere, same.2, sameValue]
    · cases binds
  | none =>
    simp only [isThere] at binds
    cases binds
    refine ⟨⟨?_, ?_⟩, Entries.get?_put_self _ _ _⟩
    · intro entry isIn
      rcases Entries.mem_put isIn with isOld | rfl
      · exact fromUses entry isOld
      · exact ⟨use, isUse, rfl⟩
    · intro name value isBound
      have apart : name ≠ reserved use.1 := by
        rintro rfl
        rw [isThere] at isBound
        cases isBound
      rwa [Entries.get?_put_of_ne _ _ apart]

theorem bindAll_eq_ok (agree : Agree all) {emitter result : Emitter Value}
    (fromUses : FromUses all emitter.bindings) (within : ∀ use ∈ uses, use ∈ all)
    (binds : emitter.bindAll uses = .ok result) :
    Extends all emitter.bindings result.bindings ∧
      ∀ use ∈ uses, Entries.get? result.bindings (reserved use.1) = some use.2 := by
  induction uses generalizing emitter with
  | nil =>
    cases binds
    exact ⟨⟨fromUses, fun _ _ isBound => isBound⟩, by simp⟩
  | cons use rest ih =>
    obtain ⟨name, value⟩ := use
    have isUse := within (name, value) List.mem_cons_self
    cases binding : Emitter.bindAs emitter.bindings (reserved name) value with
    | error conflict =>
      simp [Emitter.bindAll, Emitter.bind, binding, bind, Except.bind] at binds
    | ok bound =>
      simp only [Emitter.bindAll, Emitter.bind, binding, bind, Except.bind, pure, Except.pure]
        at binds
      obtain ⟨first, isBound⟩ := bindAs_eq_ok agree fromUses isUse binding
      obtain ⟨second, others⟩ := ih first.fromUses
        (fun other isLater => within other (List.mem_cons_of_mem _ isLater)) binds
      refine ⟨first.trans second, ?_⟩
      intro other isIn
      rcases List.mem_cons.mp isIn with rfl | isLater
      · exact second.kept _ _ isBound
      · exact others other isLater

/-- A fragment binds what its code uses. -/
theorem fragmentOf_eq_ok {name : String} {code : List Statement} {fragment : Fragment Value}
    (agree : Agree all) (within : ∀ use ∈ uses, use ∈ all)
    (makes : fragmentOf name code uses = .ok fragment) :
    FromUses all fragment.bindings ∧
      ∀ use ∈ uses, Entries.get? fragment.bindings (reserved use.1) = some use.2 := by
  cases binds : ({} : Emitter Value).bindAll uses with
  | error conflict => simp [fragmentOf, binds, bind, Except.bind] at makes
  | ok result =>
    simp only [fragmentOf, binds, bind, Except.bind, pure, Except.pure] at makes
    cases makes
    obtain ⟨extends_, all⟩ := bindAll_eq_ok agree (by simp [FromUses]) within binds
    refine ⟨?_, ?_⟩
    · rw [Emitter.fragment, bindings_emitAll]
      exact extends_.fromUses
    · rw [Emitter.fragment, bindings_emitAll]
      exact all

theorem mergeInto_eq_ok (agree : Agree all) {fragment : String} {more merged : Bindings}
    (fromUses : FromUses all bindings) (alsoFromUses : FromUses all more)
    (merges : Fragment.mergeInto fragment bindings more = .ok merged) :
    Extends all bindings merged ∧
      ∀ entry ∈ more, Entries.get? merged entry.1 = some entry.2 := by
  induction more generalizing bindings with
  | nil =>
    cases merges
    exact ⟨⟨fromUses, fun _ _ isBound => isBound⟩, by simp⟩
  | cons entry rest ih =>
    obtain ⟨use, isUse, rfl⟩ := alsoFromUses entry List.mem_cons_self
    rw [Fragment.mergeInto] at merges
    split at merges
    · rename_i bound binding
      obtain ⟨first, isBound⟩ := bindAs_eq_ok agree fromUses isUse binding
      obtain ⟨second, others⟩ := ih first.fromUses
        (fun other isLater => alsoFromUses other (List.mem_cons_of_mem _ isLater)) merges
      refine ⟨first.trans second, ?_⟩
      intro other isIn
      rcases List.mem_cons.mp isIn with rfl | isLater
      · exact second.kept _ _ isBound
      · exact others other isLater
    · cases merges

theorem merge_eq_ok (agree : Agree all) {fragments : List (Fragment Value)} {merged : Bindings}
    (fromUses : FromUses all bindings)
    (alsoFromUses : ∀ fragment ∈ fragments, FromUses all fragment.bindings)
    (merges : Fragment.merge bindings fragments = .ok merged) :
    Extends all bindings merged ∧
      ∀ fragment ∈ fragments, ∀ entry ∈ fragment.bindings,
        Entries.get? merged entry.1 = some entry.2 := by
  induction fragments generalizing bindings with
  | nil =>
    cases merges
    exact ⟨⟨fromUses, fun _ _ isBound => isBound⟩, by simp⟩
  | cons fragment rest ih =>
    rw [Fragment.merge] at merges
    cases binds : Fragment.mergeInto fragment.name bindings fragment.bindings with
    | error conflict => simp [binds, bind, Except.bind] at merges
    | ok bound =>
      simp only [binds, bind, Except.bind] at merges
      obtain ⟨first, isBound⟩ := mergeInto_eq_ok agree fromUses
        (alsoFromUses fragment List.mem_cons_self) binds
      obtain ⟨second, others⟩ := ih first.fromUses
        (fun other isLater => alsoFromUses other (List.mem_cons_of_mem _ isLater)) merges
      refine ⟨first.trans second, ?_⟩
      intro other isIn entry isEntry
      rcases List.mem_cons.mp isIn with rfl | isLater
      · exact second.kept _ _ (isBound entry isEntry)
      · exact others other isLater entry isEntry

end Code

namespace Plan

/-- Everything that the code of a command uses. -/
def uses (plan : Plan) : List Use :=
  plan.recordUses ++ (if plan.isRouted then plan.routingUses else []) ++
    if plan.options.noExtension then [] else plan.extensionUses

/-- A fragment, if there is one, binds some uses. -/
def Binds (all uses : List Use) (fragment : Option (Code.Fragment Value)) : Prop :=
  (∀ found, fragment = some found → Code.FromUses all found.bindings) ∧
    ∀ use ∈ uses, ∃ found, fragment = some found ∧
      Entries.get? found.bindings (reserved use.1) = some use.2

theorem binds_fragmentOf {all uses : List Use} {name : String} {code : List Code.Statement}
    {fragment : Code.Fragment Value} (agree : Code.Agree all) (within : ∀ use ∈ uses, use ∈ all)
    (makes : Code.fragmentOf name code uses = .ok fragment) :
    Binds all uses (some fragment) := by
  obtain ⟨fromUses, isBound⟩ := Code.fragmentOf_eq_ok agree within makes
  refine ⟨?_, fun use isUse => ⟨fragment, rfl, isBound use isUse⟩⟩
  rintro found isFound
  cases isFound
  exact fromUses

theorem binds_none (all : List Use) : Binds all [] none := by
  refine ⟨?_, ?_⟩
  · intro found isFound
    cases isFound
  · intro use isUse
    cases isUse

theorem fragments_eq_ok {plan : Plan} {fragments : Fragments} : plan.fragments = .ok fragments ↔
    plan.recordFragment = .ok fragments.record ∧ plan.routingFragment = .ok fragments.routing ∧
      plan.extensionFragment = .ok fragments.extension := by
  cases fragments
  simp only [Plan.fragments, bind, Except.bind, pure, Except.pure]
  cases plan.recordFragment <;> cases plan.routingFragment <;> cases plan.extensionFragment <;>
    simp

theorem some_of_map {made : Except Code.BindingConflict (Code.Fragment Value)}
    {fragment : Option (Code.Fragment Value)} (makes : made.map some = .ok fragment) :
    ∃ found, fragment = some found ∧ made = .ok found := by
  cases made with
  | error conflict => cases makes
  | ok found =>
    cases makes
    exact ⟨found, rfl, rfl⟩

/-- There is a fragment for the routing if the outcome is routed. -/
theorem routingFragment_eq_ok {plan : Plan} {fragment : Option (Code.Fragment Value)}
    (makes : plan.routingFragment = .ok fragment) :
    plan.isRouted = false ∧ fragment = none ∨
      plan.isRouted = true ∧ ∃ found, fragment = some found ∧
        Code.fragmentOf "routing" plan.routingCode plan.routingUses = .ok found := by
  rw [routingFragment] at makes
  split at makes
  · rename_i isRouted
    exact .inr ⟨isRouted, some_of_map makes⟩
  · rename_i unrouted
    cases makes
    exact .inl ⟨by simpa using unrouted, rfl⟩

/-- There is a fragment for the extension unless it was left out. -/
theorem extensionFragment_eq_ok {plan : Plan} {fragment : Option (Code.Fragment Value)}
    (makes : plan.extensionFragment = .ok fragment) :
    plan.options.noExtension = true ∧ fragment = none ∨
      plan.options.noExtension = false ∧ ∃ found, fragment = some found ∧
        Code.fragmentOf "trait" plan.extensionCode plan.extensionUses = .ok found := by
  rw [extensionFragment] at makes
  split at makes
  · rename_i isLeft
    cases makes
    exact .inl ⟨isLeft, rfl⟩
  · rename_i isMade
    exact .inr ⟨by simpa using isMade, some_of_map makes⟩

/-- The fragments of a command bind what it uses, and nothing else. -/
theorem binds_of_fragments {plan : Plan} (agree : Code.Agree plan.uses) {fragments : Fragments}
    (makes : plan.fragments = .ok fragments) :
    (∀ fragment ∈ fragments.toList, Code.FromUses plan.uses fragment.bindings) ∧
      ∀ use ∈ plan.uses, ∃ fragment ∈ fragments.toList,
        Entries.get? fragment.bindings (reserved use.1) = some use.2 := by
  obtain ⟨ofRecord, ofRouting, ofExtension⟩ := fragments_eq_ok.mp makes
  have first := binds_fragmentOf agree
    (fun use (isUse : use ∈ plan.recordUses) => by simp [uses, isUse]) ofRecord
  have second : Binds plan.uses (if plan.isRouted then plan.routingUses else [])
      fragments.routing := by
    obtain ⟨unrouted, isNone⟩ | ⟨isRouted, found, isSome, made⟩ := routingFragment_eq_ok ofRouting
    · rw [unrouted, isNone]
      exact binds_none plan.uses
    · rw [isRouted, isSome]
      exact binds_fragmentOf agree
        (fun use (isUse : use ∈ plan.routingUses) => by simp [uses, isRouted, isUse]) made
  have third : Binds plan.uses (if plan.options.noExtension then [] else plan.extensionUses)
      fragments.extension := by
    obtain ⟨isLeft, isNone⟩ | ⟨isMade, found, isSome, made⟩ := extensionFragment_eq_ok ofExtension
    · rw [isLeft, isNone]
      exact binds_none plan.uses
    · rw [isMade, isSome]
      exact binds_fragmentOf agree
        (fun use (isUse : use ∈ plan.extensionUses) => by simp [uses, isMade, isUse]) made
  constructor
  · intro fragment isIn
    simp only [Fragments.toList, List.cons_append, List.mem_cons, List.mem_append,
      Option.mem_toList] at isIn
    rcases isIn with rfl | isRouting | isExtension
    · exact first.1 _ rfl
    · exact second.1 _ isRouting
    · exact third.1 _ isExtension
  · intro use isUse
    simp only [uses, List.mem_append] at isUse
    rcases isUse with (ofFirst | ofSecond) | ofThird
    · obtain ⟨found, isFound, isBound⟩ := first.2 use ofFirst
      cases isFound
      exact ⟨fragments.record, by simp [Fragments.toList], isBound⟩
    · obtain ⟨found, isFound, isBound⟩ := second.2 use ofSecond
      exact ⟨found, by simp [Fragments.toList, isFound], isBound⟩
    · obtain ⟨found, isFound, isBound⟩ := third.2 use ofThird
      exact ⟨found, by simp [Fragments.toList, isFound], isBound⟩

/-- The code of a command is run among everything that it uses, and nothing else. -/
theorem get?_of_merge {plan : Plan} (agree : Code.Agree plan.uses) {fragments : Fragments}
    {names : Bindings} (makes : plan.fragments = .ok fragments)
    (merges : Code.Fragment.merge [] fragments.toList = .ok names) :
    Code.FromUses plan.uses names ∧
      ∀ use ∈ plan.uses, Entries.get? names (reserved use.1) = some use.2 := by
  obtain ⟨fromUses, isBound⟩ := binds_of_fragments agree makes
  obtain ⟨extends_, merged⟩ := Code.merge_eq_ok agree (by simp [Code.FromUses]) fromUses merges
  refine ⟨extends_.fromUses, fun use isUse => ?_⟩
  obtain ⟨fragment, isIn, isHere⟩ := isBound use isUse
  exact merged fragment isIn _ (Entries.mem_of_get? isHere)

/-! ## Names that mean one thing -/

/-- The uses whose names do not depend on the definition. -/
def constantUses (plan : Plan) : List Use :=
  [("base", plan.host.commandBase plan.forEntity), ("Generic", .ofClass ClassId.generic),
    ("dataclass", .builtin "dataclass"), ("field", .builtin "field"), ("body", plan.body),
    ("partial", .ofClass ClassId.partialCall), ("Success", .ofClass ClassId.success),
    ("Failure", .ofClass ClassId.failure), ("singledispatch", .builtin "singledispatch"),
    ("unimplemented", .builtin "unimplemented"), ("queued", plan.host.queuedTarget plan.forEntity),
    ("direct", plan.host.directTarget plan.forEntity), ("ABC", .ofClass ClassId.abstract),
    ("setattr", .builtin "setattr"), ("ABCMeta", .ofClass ClassId.abstractMeta)] ++
    plan.options.onSuccess.toList.map (("ok", ·)) ++ plan.options.onFailure.toList.map (("err", ·))

/-- Where a use comes from. -/
inductive Known (plan : Plan) : Use → Prop where
  | constant {use : Use} (isConstant : use ∈ plan.constantUses) : Known plan use
  | typeParameter (index : Nat) (type : Value)
      (isType : plan.signature.generics[index]? = some type) :
      Known plan ("tp_" ++ toString index, type)
  | hint (field : Field) (isField : field ∈ plan.fields) :
      Known plan ("ann_" ++ field.name, field.hint)
  | default (field : Field) (isField : field ∈ plan.fields) (value : Value)
      (isDefault : field.default = some value) : Known plan ("default_" ++ field.name, value)
  | declared (isExclusive : plan.mode = .exclusive) (parameter : Parameter)
      (isParameter : parameter ∈ plan.signature.parameters) (value : Value)
      (isDefault : parameter.default = some value) :
      Known plan ("default_" ++ parameter.name, value)

variable {plan : Plan}

theorem mem_typeParameterUses {start : Nat} {types : List Value} {use : Use}
    (isUse : use ∈ typeParameterUses start types) :
    ∃ index, types[index]? = some use.2 ∧ use.1 = "tp_" ++ toString (start + index) := by
  induction types generalizing start with
  | nil => cases isUse
  | cons type rest ih =>
    rcases List.mem_cons.mp isUse with rfl | isLater
    · exact ⟨0, rfl, rfl⟩
    · obtain ⟨index, isType, isName⟩ := ih isLater
      exact ⟨index + 1, isType, by rw [isName, Nat.add_assoc, Nat.add_comm 1 index]⟩

theorem known_defaultUse {field : Field} (isField : field ∈ plan.fields) {use : Use}
    (isUse : use ∈ field.defaultUse) : Known plan use := by
  obtain ⟨value, isDefault, rfl⟩ := Option.map_eq_some_iff.mp (Option.mem_toList.mp isUse)
  exact .default field isField value isDefault

theorem known_bodyUses {use : Use} (isUse : use ∈ plan.bodyUses) : Known plan use := by
  apply Known.constant
  simp only [bodyUses, List.mem_cons] at isUse
  rcases isUse with rfl | isPartial
  · simp [constantUses]
  · split at isPartial
    · obtain rfl := List.mem_singleton.mp isPartial
      simp [constantUses]
    · cases isPartial

theorem known_parameterUses {use : Use} (isUse : use ∈ parameterUses plan.fields) :
    Known plan use := by
  simp only [parameterUses, List.mem_append, List.mem_flatMap, List.mem_filter] at isUse
  rcases isUse with ⟨field, ⟨isField, -⟩, isUse⟩ | ⟨field, ⟨isField, -⟩, isUse⟩
  · exact known_defaultUse isField isUse
  · exact known_defaultUse isField isUse

theorem known_recordUses {use : Use} (isUse : use ∈ plan.recordUses) : Known plan use := by
  simp only [recordUses, List.mem_append, List.mem_cons] at isUse
  rcases isUse with ((rfl | isGeneric) | rfl | ofField) | isBody
  · exact .constant (by simp [constantUses])
  · split at isGeneric
    · cases isGeneric
    · rcases List.mem_cons.mp isGeneric with rfl | isType
      · exact .constant (by simp [constantUses])
      · obtain ⟨index, isType, isName⟩ := mem_typeParameterUses isType
        rw [Nat.zero_add] at isName
        obtain ⟨name, value⟩ := use
        obtain rfl : name = _ := isName
        exact .typeParameter index value isType
  · exact .constant (by simp [constantUses])
  · obtain ⟨field, isField, isUse⟩ := List.mem_flatMap.mp ofField
    simp only [fieldUses, List.mem_cons, List.mem_append] at isUse
    rcases isUse with (rfl | isDefault) | isOption
    · exact .hint field isField
    · exact known_defaultUse isField isDefault
    · split at isOption
      · cases isOption
      · obtain rfl := List.mem_singleton.mp isOption
        exact .constant (by simp [constantUses])
  · exact known_bodyUses isBody

theorem known_routingUses {use : Use} (isUse : use ∈ plan.routingUses) : Known plan use := by
  rw [routingUses, List.mem_append] at isUse
  rcases isUse with isRoute | isOther
  · apply Known.constant
    rw [routeUses, List.mem_append] at isRoute
    rcases isRoute with ofSuccess | ofFailure
    · split at ofSuccess
      · rename_i handler isHandler
        rcases List.mem_cons.mp ofSuccess with rfl | isLast
        · simp [constantUses]
        · obtain rfl := List.mem_singleton.mp isLast
          simp [constantUses, isHandler]
      · cases ofSuccess
    · split at ofFailure
      · rename_i handler isHandler
        rcases List.mem_cons.mp ofFailure with rfl | isLast
        · simp [constantUses]
        · obtain rfl := List.mem_singleton.mp isLast
          simp [constantUses, isHandler]
      · cases ofFailure
  · split at isOther
    · rename_i isExclusive
      rcases List.mem_append.mp isOther with isDeclared | isBody
      · obtain ⟨parameter, isParameter, isSome⟩ := List.mem_filterMap.mp isDeclared
        obtain ⟨value, isDefault, rfl⟩ := Option.map_eq_some_iff.mp isSome
        exact .declared isExclusive parameter isParameter value isDefault
      · exact known_bodyUses isBody
    · exact known_parameterUses isOther

theorem known_extensionUses {use : Use} (isUse : use ∈ plan.extensionUses) : Known plan use := by
  simp only [extensionUses, List.mem_append] at isUse
  rcases isUse with ((isDefault | isDispatch) | isDirect) | isClass
  · exact known_parameterUses isDefault
  · simp only [List.mem_cons, List.not_mem_nil, or_false] at isDispatch
    rcases isDispatch with rfl | rfl | rfl <;> exact .constant (by simp [constantUses])
  · split at isDirect
    · cases isDirect
    · obtain rfl := List.mem_singleton.mp isDirect
      exact .constant (by simp [constantUses])
  · simp only [List.mem_cons, List.not_mem_nil, or_false] at isClass
    rcases isClass with rfl | rfl | rfl <;> exact .constant (by simp [constantUses])

theorem known_uses {use : Use} (isUse : use ∈ plan.uses) : Known plan use := by
  simp only [uses, List.mem_append] at isUse
  rcases isUse with (isRecord | isRouting) | isExtension
  · exact known_recordUses isRecord
  · split at isRouting
    · exact known_routingUses isRouting
    · cases isRouting
  · split at isExtension
    · cases isExtension
    · exact known_extensionUses isExtension

/-- The kinds of names, told apart by how they open. -/
def opening (name : String) : Nat :=
  if "tp_".toList.isPrefixOf name.toList then 1
  else if "ann_".toList.isPrefixOf name.toList then 2
  else if "default_".toList.isPrefixOf name.toList then 3
  else 0

theorem opening_type (name : String) : opening ("tp_" ++ name) = 1 := by
  rw [opening, String.toList_append]
  rfl

theorem opening_hint (name : String) : opening ("ann_" ++ name) = 2 := by
  rw [opening, String.toList_append]
  rfl

theorem opening_default (name : String) : opening ("default_" ++ name) = 3 := by
  rw [opening, String.toList_append]
  rfl

theorem opening_constant {use : Use} (isConstant : use ∈ plan.constantUses) :
    opening use.1 = 0 := by
  have zero : ∀ entry ∈ plan.constantUses, opening entry.1 = 0 := by
    rw [constantUses, List.forall_mem_append, List.forall_mem_append]
    refine ⟨⟨?_, ?_⟩, ?_⟩
    · simp only [List.forall_mem_cons]
      decide
    · rw [List.forall_mem_map]
      exact fun _ _ => (rfl : opening "ok" = 0)
    · rw [List.forall_mem_map]
      exact fun _ _ => (rfl : opening "err" = 0)
  exact zero use isConstant

theorem nodup_constantUses (plan : Plan) : (plan.constantUses.map Prod.fst).Nodup := by
  cases ofSuccess : plan.options.onSuccess <;> cases ofFailure : plan.options.onFailure <;>
    simp [constantUses, ofSuccess, ofFailure]

/-- Of entries with keys of their own, those with one key are one entry. -/
theorem eq_of_key {uses : List Use} (apart : (uses.map Prod.fst).Nodup) {use other : Use}
    (isUse : use ∈ uses) (isOther : other ∈ uses) (same : use.1 = other.1) : use = other :=
  List.inj_on_of_nodup_map apart isUse isOther same

/-- The record of an accepted exclusive command captures its fields, so each has the default of the
parameter that it is named after. -/
theorem default_of_exclusive (accepted : plan.Accepted)
    (distinct : (plan.signature.parameters.map Parameter.name).Nodup)
    (isExclusive : plan.mode = .exclusive) {field : Field} {parameter : Parameter}
    (isField : field ∈ plan.fields) (isParameter : parameter ∈ plan.signature.parameters)
    (same : field.name = parameter.name) : field.default = parameter.default := by
  cases accepted.brings isField with
  | captured source isCaptured name default =>
    have isSource := accepted.mem_parameters isCaptured
    obtain rfl : source = parameter :=
      List.inj_on_of_nodup_map distinct isSource isParameter (name.symm.trans same)
    exact default
  | piped piped _ isInput => exact absurd rfl ((accepted.exclusive isExclusive).2 _ isInput).1

/-- The code of an accepted definition uses no name for two things. -/
theorem agree_uses (accepted : plan.Accepted)
    (distinct : (plan.signature.parameters.map Parameter.name).Nodup) : Code.Agree plan.uses := by
  have fieldsApart := accepted.nodup_fields distinct
  intro use isUse other isOther same
  have first := known_uses isUse
  have second := known_uses isOther
  have opens := congrArg opening same
  cases first with
  | constant isConstant =>
    rw [opening_constant isConstant] at opens
    cases second with
    | constant isConstantToo =>
      rw [eq_of_key (nodup_constantUses plan) isConstant isConstantToo same]
    | typeParameter => simp [opening_type] at opens
    | hint => simp [opening_hint] at opens
    | default => simp [opening_default] at opens
    | declared => simp [opening_default] at opens
  | typeParameter index type isType =>
    rw [opening_type] at opens
    cases second with
    | constant isConstant => simp [opening_constant isConstant] at opens
    | typeParameter position found isFound =>
      have sameIndex : index = position := by
        simpa [Nat.repr_inj] using same
      rw [sameIndex, isFound] at isType
      exact (Option.some.inj isType).symm
    | hint => simp [opening_hint] at opens
    | default => simp [opening_default] at opens
    | declared => simp [opening_default] at opens
  | hint field isField =>
    rw [opening_hint] at opens
    cases second with
    | constant isConstant => simp [opening_constant isConstant] at opens
    | typeParameter => simp [opening_type] at opens
    | hint found isFound =>
      rw [List.inj_on_of_nodup_map fieldsApart isField isFound (by simpa using same)]
    | default => simp [opening_default] at opens
    | declared => simp [opening_default] at opens
  | default field isField value isDefault =>
    rw [opening_default] at opens
    cases second with
    | constant isConstant => simp [opening_constant isConstant] at opens
    | typeParameter => simp [opening_type] at opens
    | hint => simp [opening_hint] at opens
    | default found isFound content isContent =>
      obtain rfl := List.inj_on_of_nodup_map fieldsApart isField isFound (by simpa using same)
      rw [isDefault] at isContent
      exact Option.some.inj isContent
    | declared isExclusive parameter isParameter content isContent =>
      have sameDefault :=
        default_of_exclusive accepted distinct isExclusive isField isParameter (by simpa using same)
      rw [isDefault, isContent] at sameDefault
      exact Option.some.inj sameDefault
  | declared isExclusive parameter isParameter value isDefault =>
    rw [opening_default] at opens
    cases second with
    | constant isConstant => simp [opening_constant isConstant] at opens
    | typeParameter => simp [opening_type] at opens
    | hint => simp [opening_hint] at opens
    | default found isFound content isContent =>
      have sameDefault := default_of_exclusive accepted distinct isExclusive isFound isParameter
        (by simpa using same.symm)
      rw [isContent, isDefault] at sameDefault
      exact (Option.some.inj sameDefault).symm
    | declared _ found isFound content isContent =>
      obtain rfl := List.inj_on_of_nodup_map distinct isParameter isFound (by simpa using same)
      rw [isDefault] at isContent
      exact Option.some.inj isContent

end Plan

end Deferred
