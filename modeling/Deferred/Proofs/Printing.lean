import Deferred.Proofs.Uses
import Deferred.Generation.Assemble

/-!
# The text of generated code

The text of a fragment is what its code is printed as; what the fragment binds leaves no trace in
it.  No fragment of an accepted definition is refused: a name is bound again only to what it is
bound to already, within a fragment and between fragments.
-/

namespace Deferred

open Text

/-! ## Values -/

mutual

/-- A value is the same object as itself. -/
theorem Value.same_self (value : Value) : value.same value = true := by
  cases value <;> simp [Value.same, same_self, sameAll_self]

theorem Value.sameAll_self (values : List Value) : Value.same.sameAll values values = true := by
  cases values <;> simp [Value.same.sameAll, same_self, sameAll_self]

end

namespace Code

/-! ## Printing -/

section Printing

variable {ν : Type} {first second : Emitter ν}

/-- Two emitters have printed the same, whatever they have bound. -/
structure PrintsAs (first second : Emitter ν) : Prop where
  indent : first.indent = second.indent
  level : first.level = second.level
  lines : first.lines = second.lines

theorem PrintsAs.line (same : PrintsAs first second) (code : String) :
    PrintsAs (first.line code) (second.line code) where
  indent := same.indent
  level := same.level
  lines := by simp only [Emitter.line, same.indent, same.level, same.lines]

theorem PrintsAs.enter (same : PrintsAs first second) (header : String) :
    PrintsAs (first.enter header) (second.enter header) where
  indent := same.indent
  level := congrArg (· + 1) same.level
  lines := (same.line header).lines

theorem PrintsAs.leave (same : PrintsAs first second) : PrintsAs first.leave second.leave where
  indent := same.indent
  level := congrArg (· - 1) same.level
  lines := same.lines

theorem PrintsAs.emitDecorators (same : PrintsAs first second) (decorators : List Expr) :
    PrintsAs (Statement.emitDecorators decorators first)
      (Statement.emitDecorators decorators second) := by
  induction decorators generalizing first second with
  | nil => exact same
  | cons decorator rest ih => exact ih (same.line _)

mutual

/-- Printing a statement adds the same lines, whatever is bound. -/
theorem PrintsAs.emit {first second : Emitter ν} (same : PrintsAs first second)
    (statement : Statement) : PrintsAs (statement.emit first) (statement.emit second) := by
  cases statement with
  | field name hint value => cases value <;> exact same.line _
  | doc text =>
    rw [Statement.emit, Statement.emit, Emitter.doc, Emitter.doc]
    split
    · exact same
    · exact same.line _
  | define decorators name parameters body =>
    exact (((same.emitDecorators decorators).enter _).emitAll body).leave
  | declare decorators name bases body =>
    exact (((same.emitDecorators decorators).enter _).emitAll body).leave
  | choose branches => exact same.emitBranches "if" branches
  | pass => exact same.line _
  | blank => exact same.line _
  | expression value => exact same.line _
  | assign name value => exact same.line _
  | returns value => exact same.line _
  | raises value => exact same.line _

theorem PrintsAs.emitAll {first second : Emitter ν} (same : PrintsAs first second)
    (statements : List Statement) :
    PrintsAs (Statement.emitAll statements first) (Statement.emitAll statements second) := by
  cases statements with
  | nil => exact same
  | cons statement rest => exact (same.emit statement).emitAll rest

theorem PrintsAs.emitBranches {first second : Emitter ν} (same : PrintsAs first second)
    (keyword : String) (branches : List (Expr × List Statement)) :
    PrintsAs (Statement.emitBranches keyword branches first)
      (Statement.emitBranches keyword branches second) := by
  cases branches with
  | nil => exact same
  | cons branch rest =>
    exact (((same.enter _).emitAll branch.2).leave).emitBranches "elif" rest

end

end Printing

/-- The text that code is printed as. -/
def printed (code : List Statement) : String :=
  ((Statement.emitAll code ({} : Emitter Value)).fragment "").source

variable {all uses : List Use} {bindings : Bindings} {code : List Statement}

theorem printsAs_bindAll {emitter bound : Emitter Value}
    (binds : emitter.bindAll uses = .ok bound) : PrintsAs bound emitter := by
  induction uses generalizing emitter with
  | nil =>
    cases binds
    exact ⟨rfl, rfl, rfl⟩
  | cons use rest ih =>
    cases binding : Emitter.bindAs emitter.bindings (reserved use.1) use.2 with
    | error conflict =>
      simp [Emitter.bindAll, Emitter.bind, binding, bind, Except.bind] at binds
    | ok bindings =>
      simp only [Emitter.bindAll, Emitter.bind, binding, bind, Except.bind, pure, Except.pure]
        at binds
      obtain ⟨indent, level, lines⟩ := ih binds
      exact ⟨indent, level, lines⟩

/-- What a fragment binds leaves no trace in its text. -/
theorem source_of_fragmentOf {name : String} {fragment : Fragment Value}
    (makes : fragmentOf name code uses = .ok fragment) : fragment.source = printed code := by
  cases binds : ({} : Emitter Value).bindAll uses with
  | error conflict => simp [fragmentOf, binds, bind, Except.bind] at makes
  | ok bound =>
    simp only [fragmentOf, binds, bind, Except.bind, pure, Except.pure] at makes
    cases makes
    simp only [printed, Emitter.fragment, ((printsAs_bindAll binds).emitAll code).lines]

/-! ## Binding without a conflict -/

/-- A name that is free, or stands for the thing already, is bound to it. -/
theorem exists_bindAs_of_free {use : Use}
    (free : ∀ other, Entries.get? bindings (reserved use.1) = some other → other = use.2) :
    ∃ bound, Emitter.bindAs bindings (reserved use.1) use.2 = .ok bound ∧
      Entries.get? bound (reserved use.1) = some use.2 ∧
      ∀ name ≠ reserved use.1, Entries.get? bound name = Entries.get? bindings name := by
  rw [Emitter.bindAs]
  cases isThere : Entries.get? bindings (reserved use.1) with
  | some other =>
    obtain rfl := free other isThere
    exact ⟨bindings, if_pos use.2.same_self, isThere, fun _ _ => rfl⟩
  | none =>
    exact ⟨_, rfl, Entries.get?_put_self _ _ _, fun _ isOther => Entries.get?_put_of_ne _ _ isOther⟩

theorem exists_bindAs (agree : Agree all) (fromUses : FromUses all bindings) {use : Use}
    (isUse : use ∈ all) :
    ∃ bound, Emitter.bindAs bindings (reserved use.1) use.2 = .ok bound := by
  have free : ∀ value, Entries.get? bindings (reserved use.1) = some value → value = use.2 := by
    intro value isThere
    obtain ⟨other, isOther, same⟩ := fromUses _ (Entries.mem_of_get? isThere)
    simp only [Prod.mk.injEq, reserved_inj] at same
    exact same.2.trans (agree use isUse other isOther same.1).symm
  obtain ⟨bound, binding, -⟩ := exists_bindAs_of_free free
  exact ⟨bound, binding⟩

/-- Nothing that agrees with what is bound already is refused. -/
theorem exists_bindAll (agree : Agree all) (emitter : Emitter Value)
    (fromUses : FromUses all emitter.bindings) (within : ∀ use ∈ uses, use ∈ all) :
    ∃ bound, emitter.bindAll uses = .ok bound := by
  induction uses generalizing emitter with
  | nil => exact ⟨emitter, rfl⟩
  | cons use rest ih =>
    have isUse := within use List.mem_cons_self
    obtain ⟨bindings, binding⟩ := exists_bindAs agree fromUses isUse
    obtain ⟨bound, binds⟩ := ih { emitter with bindings }
      (bindAs_eq_ok agree fromUses isUse binding).1.fromUses
      fun other isLater => within other (List.mem_cons_of_mem _ isLater)
    refine ⟨bound, ?_⟩
    simp only [Emitter.bindAll, Emitter.bind, binding, bind, Except.bind, pure, Except.pure]
    exact binds

theorem exists_fragmentOf (agree : Agree all) (within : ∀ use ∈ uses, use ∈ all) (name : String)
    (code : List Statement) : ∃ fragment, fragmentOf name code uses = .ok fragment := by
  obtain ⟨bound, binds⟩ := exists_bindAll agree {} (by simp [FromUses]) within
  exact ⟨(Statement.emitAll code bound).fragment name, by rw [fragmentOf, binds]; rfl⟩

theorem exists_mergeInto (agree : Agree all) (fragment : String) {more : Bindings}
    (fromUses : FromUses all bindings) (alsoFromUses : FromUses all more) :
    ∃ merged, Fragment.mergeInto fragment bindings more = .ok merged := by
  induction more generalizing bindings with
  | nil => exact ⟨bindings, rfl⟩
  | cons entry rest ih =>
    obtain ⟨use, isUse, rfl⟩ := alsoFromUses entry List.mem_cons_self
    obtain ⟨bound, binding⟩ := exists_bindAs agree fromUses isUse
    obtain ⟨merged, merges⟩ := ih (bindAs_eq_ok agree fromUses isUse binding).1.fromUses
      fun other isLater => alsoFromUses other (List.mem_cons_of_mem _ isLater)
    exact ⟨merged, by rw [Fragment.mergeInto, binding]; exact merges⟩

/-- Fragments whose bindings agree are put together. -/
theorem exists_merge (agree : Agree all) {fragments : List (Fragment Value)}
    (fromUses : FromUses all bindings)
    (alsoFromUses : ∀ fragment ∈ fragments, FromUses all fragment.bindings) :
    ∃ merged, Fragment.merge bindings fragments = .ok merged := by
  induction fragments generalizing bindings with
  | nil => exact ⟨bindings, rfl⟩
  | cons fragment rest ih =>
    have isFrom := alsoFromUses fragment List.mem_cons_self
    obtain ⟨bound, binds⟩ := exists_mergeInto agree fragment.name fromUses isFrom
    obtain ⟨merged, merges⟩ := ih (mergeInto_eq_ok agree fromUses isFrom binds).1.fromUses
      fun other isLater => alsoFromUses other (List.mem_cons_of_mem _ isLater)
    exact ⟨merged, by rw [Fragment.merge, binds]; exact merges⟩

end Code

/-! ## The fragments of a command -/

namespace Plan

variable {plan : Plan}

/-- The text of a command: the text of its record, of its routing and of its extension. -/
def text (plan : Plan) : String :=
  String.intercalate "\n" (Code.printed plan.recordCode ::
    (if plan.isRouted then [Code.printed plan.routingCode] else []) ++
      if plan.options.noExtension then [] else [Code.printed plan.extensionCode])

theorem sources_of_routingFragment {fragment : Option (Code.Fragment Value)}
    (makes : plan.routingFragment = .ok fragment) : fragment.toList.map Code.Fragment.source =
      if plan.isRouted then [Code.printed plan.routingCode] else [] := by
  obtain ⟨unrouted, rfl⟩ | ⟨isRouted, found, rfl, made⟩ := routingFragment_eq_ok makes
  · simp [unrouted]
  · simp [isRouted, Code.source_of_fragmentOf made]

theorem sources_of_extensionFragment {fragment : Option (Code.Fragment Value)}
    (makes : plan.extensionFragment = .ok fragment) : fragment.toList.map Code.Fragment.source =
      if plan.options.noExtension then [] else [Code.printed plan.extensionCode] := by
  obtain ⟨isLeft, rfl⟩ | ⟨isMade, found, rfl, made⟩ := extensionFragment_eq_ok makes
  · simp [isLeft]
  · simp [isMade, Code.source_of_fragmentOf made]

/-- The fragments of a command are put together to its text. -/
theorem source_of_fragments {fragments : Fragments} (makes : plan.fragments = .ok fragments) :
    fragments.source = plan.text := by
  obtain ⟨ofRecord, ofRouting, ofExtension⟩ := fragments_eq_ok.mp makes
  rw [Fragments.source, Code.Fragment.join, Fragments.toList, text, List.cons_append,
    List.map_cons, List.map_append, sources_of_routingFragment ofRouting,
    sources_of_extensionFragment ofExtension, Code.source_of_fragmentOf ofRecord, List.cons_append]

/-- The fragments of a command that uses no name for two things are made and put together. -/
theorem exists_fragments (agree : Code.Agree plan.uses) :
    ∃ fragments names, plan.fragments = .ok fragments ∧
      Code.Fragment.merge [] fragments.toList = .ok names := by
  have recordUses : ∀ use ∈ plan.recordUses, use ∈ plan.uses := fun use isUse => by
    simp [uses, isUse]
  have routingUses : ∀ use ∈ if plan.isRouted then plan.routingUses else [], use ∈ plan.uses :=
    fun use isUse => by simp [uses, isUse]
  have extensionUses : ∀ use ∈ if plan.options.noExtension then [] else plan.extensionUses,
      use ∈ plan.uses := fun use isUse => by simp [uses, isUse]
  obtain ⟨record, ofRecord⟩ := Code.exists_fragmentOf agree recordUses "record" plan.recordCode
  obtain ⟨routing, ofRouting⟩ : ∃ routing, plan.routingFragment = .ok routing := by
    rw [routingFragment]
    split
    · rename_i isRouted
      rw [if_pos isRouted] at routingUses
      obtain ⟨fragment, makes⟩ := Code.exists_fragmentOf agree routingUses "routing"
        plan.routingCode
      exact ⟨some fragment, by rw [makes]; rfl⟩
    · exact ⟨none, rfl⟩
  obtain ⟨extension, ofExtension⟩ : ∃ extension, plan.extensionFragment = .ok extension := by
    rw [extensionFragment]
    split
    · exact ⟨none, rfl⟩
    · rename_i isMade
      rw [if_neg isMade] at extensionUses
      obtain ⟨fragment, makes⟩ := Code.exists_fragmentOf agree extensionUses "trait"
        plan.extensionCode
      exact ⟨some fragment, by rw [makes]; rfl⟩
  have makes : plan.fragments = .ok ⟨record, routing, extension⟩ :=
    fragments_eq_ok.mpr ⟨ofRecord, ofRouting, ofExtension⟩
  have before : Code.FromUses plan.uses [] := by simp [Code.FromUses]
  obtain ⟨names, merges⟩ := Code.exists_merge agree before (binds_of_fragments agree makes).1
  exact ⟨⟨record, routing, extension⟩, names, makes, merges⟩

end Plan

end Deferred
