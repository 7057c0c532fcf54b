import Deferred.Proofs.DerivedNames
import Deferred.Proofs.Reporting

/-!
# The keyword that is blamed

A diagnostic about the keywords of a decoration points at one of them.  The checks of the values
only blame keywords that were written.  Two rules may blame another one.  A record that is named as
the extension is derived is held against the name of the extension, which was not written then.  And
a root that cannot be used is held against `bevy_ecs` as soon as that is written, even where it is
off and `ecs` chose the root.
-/

namespace Deferred

namespace Options

variable {raw : Raw} {key routine : String} {forEntity : Bool} {options : Options}
  {error : OptionsError}

/-! ## Values that are refused -/

/-- Was a keyword given? -/
def IsGiven (raw : Raw) (key : String) : Prop := key ∈ raw.map Prod.fst

instance : Decidable (IsGiven raw key) := inferInstanceAs (Decidable (key ∈ raw.map Prod.fst))

theorem isGiven_of_lookup {value : Value} (found : raw.lookup key = some value) :
    IsGiven raw key := by
  obtain ⟨before, after, rfl, -⟩ := List.lookup_eq_some_iff.mp found
  simp [IsGiven]

/-- A keyword that is not left open was written. -/
theorem isGiven_of_leavesOpen (chosen : leavesOpen raw key = false) : IsGiven raw key := by
  rw [leavesOpen] at chosen
  split at chosen
  · cases chosen
  · cases chosen
  · exact isGiven_of_lookup ‹_›

/-- The checks of one value blame the keyword that it was written for. -/
theorem isGiven_of_flag (fails : flag raw key = .error error) : IsGiven raw error.key := by
  rw [flag] at fails
  split at fails <;> cases fails
  exact isGiven_of_lookup ‹_›

theorem isGiven_of_name? (fails : name? raw key = .error error) : IsGiven raw error.key := by
  rw [name?] at fails
  split at fails
  · cases fails
  · cases fails
  · split at fails <;> cases fails
    exact isGiven_of_lookup ‹_›
  · cases fails
    exact isGiven_of_lookup ‹_›

theorem isGiven_of_root? (fails : root? raw key = .error error) : IsGiven raw error.key := by
  rw [root?] at fails
  split at fails
  · cases fails
  · cases fails
  · split at fails <;> cases fails
    exact isGiven_of_lookup ‹_›
  · cases fails
  · cases fails
    exact isGiven_of_lookup ‹_›

theorem isGiven_of_handler? (fails : handler? raw key = .error error) :
    IsGiven raw error.key := by
  rw [handler?] at fails
  split at fails
  · cases fails
  · cases fails
  · split at fails <;> cases fails
    exact isGiven_of_lookup ‹_›

/-! ## Keywords that do not go together -/

theorem isGiven_of_flag_true (isOn : flag raw key = .ok true) : IsGiven raw key := by
  rw [flag] at isOn
  split at isOn
  · cases isOn
  · exact isGiven_of_lookup ‹_›
  · cases isOn

/-- Two names that meet were not both derived. -/
theorem of_sameNames {record extension : Option String} {method : String}
    (ofRecord : name? raw "struct_name" = .ok record)
    (ofExtension : name? raw "trait_name" = .ok extension)
    (meet : record.getD (derivedRecordName forEntity method) =
      extension.getD (derivedExtensionName forEntity method)) :
    IsGiven raw "trait_name" ∨ record = some (derivedExtensionName forEntity method) := by
  cases extension with
  | some name => exact .inl (isGiven_of_leavesOpen (of_name? ofExtension).1)
  | none =>
    cases record with
    | some name => exact .inr (congrArg some meet)
    | none => exact absurd meet derivedRecordName_ne_derivedExtensionName

theorem error_of_bind {α β : Type} {check : Except OptionsError α}
    {next : α → Except OptionsError β} (fails : (check >>= next) = .error error) :
    check = .error error ∨ ∃ value, check = .ok value ∧ next value = .error error := by
  cases check with
  | error _ => exact .inl (by cases fails; rfl)
  | ok value => exact .inr ⟨value, rfl, fails⟩

/-- The check of all keywords only blames one that was not given where the record was given the
name that the extension derives. -/
theorem blamed_of_resolve (fails : resolve raw routine forEntity = .error error) :
    IsGiven raw error.key ∨ ∃ method,
      error = .sameNames (derivedExtensionName forEntity method) ∧
        name? raw "struct_name" = .ok (some (derivedExtensionName forEntity method)) := by
  rw [resolve] at fails
  obtain refused | ⟨noExtension, -, fails⟩ := error_of_bind fails
  · exact .inl (isGiven_of_flag refused)
  obtain refused | ⟨noDirect, -, fails⟩ := error_of_bind fails
  · exact .inl (isGiven_of_flag refused)
  obtain refused | ⟨name, -, fails⟩ := error_of_bind fails
  · exact .inl (isGiven_of_name? refused)
  obtain refused | ⟨record, ofRecord, fails⟩ := error_of_bind fails
  · exact .inl (isGiven_of_name? refused)
  obtain refused | ⟨extension, ofExtension, fails⟩ := error_of_bind fails
  · exact .inl (isGiven_of_name? refused)
  obtain refused | ⟨named, -, fails⟩ := error_of_bind fails
  · exact .inl (isGiven_of_root? refused)
  obtain refused | ⟨standalone, ofFlag, fails⟩ := error_of_bind fails
  · exact .inl (isGiven_of_flag refused)
  obtain refused | ⟨onSuccess, -, fails⟩ := error_of_bind fails
  · exact .inl (isGiven_of_handler? refused)
  obtain refused | ⟨onFailure, -, fails⟩ := error_of_bind fails
  · exact .inl (isGiven_of_handler? refused)
  simp only [bind, Except.bind, pure, Except.pure, throw, throwThe, MonadExceptOf.throw] at fails
  split at fails
  · rename_i key undeclared
    cases fails
    exact .inl (List.mem_of_find?_eq_some undeclared)
  · split at fails
    · rename_i both
      cases fails
      rw [Bool.and_eq_true] at both
      exact .inl (isGiven_of_flag_true (both.2 ▸ ofFlag))
    · split at fails
      · rename_i meets
        cases fails
        rw [Bool.and_eq_true, decide_eq_true_eq] at meets
        rcases of_sameNames ofRecord ofExtension meets.1 with isGiven | isDerived
        · exact .inl isGiven
        · refine .inr ⟨name.getD routine, congrArg _ ?_, isDerived ▸ ofRecord⟩
          rw [isDerived]
          rfl
      · cases fails

/-! ## The root that is blamed -/

/-- The keyword whose value chose the root, when it was not left at its default. -/
def rootChoice? (raw : Raw) : Option String :=
  if !leavesOpen raw "ecs" then some "ecs"
  else
    match raw.lookup "bevy_ecs" with
    | some (.bool true) => some "bevy_ecs"
    | _ => none

theorem leavesOpen_of_root? {named : Option Host.Root} (runs : root? raw key = .ok named) :
    leavesOpen raw key = named.isNone := by
  rw [root?] at runs
  rw [leavesOpen]
  split at runs
  · rename_i isMissing
    cases runs
    rw [isMissing]
    rfl
  · rename_i isAbsent
    cases runs
    rw [isAbsent]
    rfl
  · rename_i isText
    split at runs <;> cases runs
    rw [isText]
    rfl
  · rename_i isModule
    cases runs
    rw [isModule]
    rfl
  · cases runs

theorem lookup_of_flag {isOn : Bool} (runs : flag raw key = .ok isOn) :
    raw.lookup key = some (.bool true) ↔ isOn = true := by
  rw [flag] at runs
  split at runs
  · rename_i isMissing
    cases runs
    simp [isMissing]
  · rename_i isFlag
    cases runs
    simp [isFlag]
  · cases runs

/-- A root is chosen by `ecs`, by `bevy_ecs`, or left at its default. -/
theorem root_of_resolve (runs : resolve raw routine forEntity = .ok options) :
    (rootChoice? raw = some "ecs" ∧ root? raw "ecs" = .ok (some options.root)) ∨
      (rootChoice? raw = some "bevy_ecs" ∧ options.root = .path Host.standaloneRoot) ∨
      (rootChoice? raw = none ∧ options.root = .path Host.defaultRoot) := by
  have chosen : ∃ named standalone, root? raw "ecs" = .ok named ∧
      flag raw "bevy_ecs" = .ok standalone ∧ options.root =
        named.getD (.path (if standalone then Host.standaloneRoot else Host.defaultRoot)) := by
    simp only [resolve, bind, Except.bind, pure, Except.pure, throw, throwThe,
      MonadExceptOf.throw] at runs
    repeat' split at runs
    all_goals first
      | cases runs; exact ⟨_, _, ‹root? raw "ecs" = _›, ‹flag raw "bevy_ecs" = _›, by simp [*]⟩
      | cases runs
  obtain ⟨named, standalone, ofRoot, ofFlag, isRoot⟩ := chosen
  rw [rootChoice?, leavesOpen_of_root? ofRoot, isRoot]
  have isOn := lookup_of_flag ofFlag
  cases named with
  | some root => exact .inl ⟨rfl, ofRoot⟩
  | none =>
    cases standalone with
    | true =>
      rw [isOn.mpr rfl]
      exact .inr (.inl ⟨rfl, rfl⟩)
    | false =>
      refine .inr (.inr ⟨?_, rfl⟩)
      simp only [Option.isNone_none, Bool.not_true, Bool.false_eq_true, if_false]
      split
      · exact absurd (isOn.mp ‹_›) (by decide)
      · rfl


/-- The keyword that chose the root is the one that is blamed, unless `ecs` chose it beside
`bevy_ecs`. -/
theorem rootKey_eq (chosen : rootChoice? raw = some key) :
    rootKey raw = if IsGiven raw "bevy_ecs" then "bevy_ecs" else key := by
  by_cases isGiven : IsGiven raw "bevy_ecs"
  · rw [rootKey, if_pos (List.contains_iff_mem.mpr isGiven), if_pos isGiven]
  · rw [rootKey, if_neg (mt List.contains_iff_mem.mp isGiven), if_neg isGiven]
    rw [rootChoice?] at chosen
    split at chosen
    · exact Option.some.inj chosen
    · split at chosen
      · exact absurd (isGiven_of_lookup ‹raw.lookup "bevy_ecs" = _›) isGiven
      · cases chosen

/-- A root that `ecs` chose is blamed on `bevy_ecs` where that is off. -/
example : rootKey [("ecs", .ofText "nope"), ("bevy_ecs", .bool false)] = "bevy_ecs" ∧
    rootChoice? [("ecs", .ofText "nope"), ("bevy_ecs", .bool false)] = some "ecs" := by decide

end Options

/-! ## Diagnostics -/

/-- A host that cannot be loaded is held against the place that was handed on. -/
theorem Host.span_of_load {sequence? : Value → Option (List Value)} {modules : Modules}
    {root : Host.Root} {span : Option Span} {failure : Located HostError}
    (fails : Host.load sequence? modules root span = .error failure) : failure.span = span := by
  rw [Host.load] at fails
  split at fails
  · cases fails
    rfl
  · split at fails <;> cases fails
    rfl

namespace Plan

variable {around : Surroundings} {target : Target} {raw : Options.Raw} {forEntity : Bool}
  {body : Value} {fault : Fault}

/-- A fault points at a keyword: at its place when it has one, else at the line of the
definition. -/
def PointsAt (spans : SourceMap) (key : String) (fault : Fault) : Prop :=
  ∃ report : Report, fault = .rejected report ∧ report.span = some (spans.forOption key)

/-- What a failure to read a signature is reported as, if it is. -/
theorem stage_of_signature {stage : String} {failure : Located SignatureError}
    (reports : Reports stage (Diagnosis.ofSignature around.describe failure)) :
    stage = "signature" := by
  obtain ⟨report, same, rfl⟩ := reports
  rw [Diagnosis.ofSignature] at same
  split at same
  · cases same
  · cases same
    rfl
  · split at same
    · cases same
      rfl
    · rw [Diagnosis.ofResolve.eq_def] at same
      split at same <;> cases same
  · cases same
    rfl

/-- What a failure to load the host is reported as, if it is: the place is the one that was
handed on. -/
theorem stage_of_host {stage : String} {failure : Located HostError}
    (reports : Reports stage (Diagnosis.ofHost failure)) :
    stage = "host" ∧ ∃ report : Report, Diagnosis.ofHost failure = .rejected report ∧
      report.span = failure.span := by
  obtain ⟨report, same, rfl⟩ := reports
  rw [same]
  rw [Diagnosis.ofHost] at same
  split at same <;> cases same <;> exact ⟨rfl, _, rfl, rfl⟩

theorem stage_of_rejected {stage : String} {report : Report}
    (reports : Reports stage (.rejected report)) : stage = report.stage := by
  obtain ⟨found, same, rfl⟩ := reports
  cases same
  rfl

/-- A failure of the options or of the host comes after the signature was read. -/
theorem refused_of_build {stage : String} (early : stage = "options" ∨ stage = "host")
    (fails : build around target raw forEntity body = .error fault)
    (reports : Reports stage fault) :
    ∃ signature, Signature.ofTarget around.scope target = .ok signature ∧
      ((stage = "options" ∧ ∃ error, Options.resolve raw signature.name forEntity = .error error ∧
          fault = Diagnosis.ofOptions around.describe signature.spans error) ∨
        (stage = "host" ∧ ∃ root failure, Host.load around.sequence? around.modules root
            (some (signature.spans.forOption (Options.rootKey raw))) = .error failure ∧
          fault = Diagnosis.ofHost failure)) := by
  have late : ∀ other ∈ ["signature", "classify", "mode", "routing"], stage ≠ other := by
    rcases early with rfl | rfl <;> decide
  obtain ⟨failure, reads, rfl⟩ | ⟨signature, reads, fails⟩ := orReport_bind_eq_error fails
  · exact absurd (stage_of_signature reports) (late _ (by decide))
  refine ⟨signature, reads, ?_⟩
  obtain ⟨error, resolves, rfl⟩ | ⟨options, resolves, fails⟩ := orReport_bind_eq_error fails
  · exact .inl ⟨stage_of_rejected reports, error, resolves, rfl⟩
  obtain ⟨failure, loads, rfl⟩ | ⟨host, loads, fails⟩ := orReport_bind_eq_error fails
  · exact .inr ⟨(stage_of_host reports).1, options.root, failure, loads, rfl⟩
  obtain ⟨failure, sorts, rfl⟩ | ⟨classification, sorts, fails⟩ := orReport_bind_eq_error fails
  · exact absurd (stage_of_rejected reports) (late "classify" (by decide))
  obtain ⟨error, chooses, rfl⟩ | ⟨mode, chooses, fails⟩ := orReport_bind_eq_error fails
  · exact absurd (stage_of_rejected reports) (late "mode" (by decide))
  obtain ⟨error, routes, rfl⟩ | ⟨_, routes, fails⟩ := orReport_bind_eq_error fails
  · exact absurd (stage_of_rejected reports) (late "routing" (by decide))
  · cases fails

/-- A failure of the options points at a keyword that was given, or at the name of the extension
when the record was given the name that the extension derives. -/
theorem pointsAt_of_options (fails : build around target raw forEntity body = .error fault)
    (reports : Reports "options" fault) :
    ∃ signature key, Signature.ofTarget around.scope target = .ok signature ∧
      PointsAt signature.spans key fault ∧
      (Options.IsGiven raw key ∨ key = "trait_name" ∧ ∃ method,
        Options.name? raw "struct_name" =
          .ok (some (Options.derivedExtensionName forEntity method))) := by
  obtain ⟨signature, reads, ⟨-, error, resolves, rfl⟩ | ⟨other, -⟩⟩ :=
    refused_of_build (.inl rfl) fails reports
  · refine ⟨signature, error.key, reads, ⟨_, rfl, rfl⟩, ?_⟩
    rcases Options.blamed_of_resolve resolves with isGiven | ⟨method, rfl, isRecord⟩
    · exact .inl isGiven
    · exact .inr ⟨rfl, method, isRecord⟩
  · exact absurd other (by decide)

/-- A failure of the host points at the keyword that chose the root, unless `ecs` chose it beside
`bevy_ecs`: that is pointed at then. -/
theorem pointsAt_of_host {key : String}
    (fails : build around target raw forEntity body = .error fault)
    (reports : Reports "host" fault) (chosen : Options.rootChoice? raw = some key) :
    ∃ signature, Signature.ofTarget around.scope target = .ok signature ∧
      PointsAt signature.spans
        (if Options.IsGiven raw "bevy_ecs" then "bevy_ecs" else key) fault := by
  obtain ⟨signature, reads, ⟨other, -⟩ | ⟨-, root, failure, loads, rfl⟩⟩ :=
    refused_of_build (.inr rfl) fails reports
  · exact absurd other (by decide)
  · obtain ⟨-, report, isReport, spanned⟩ := stage_of_host reports
    refine ⟨signature, reads, report, isReport, ?_⟩
    rw [spanned, Host.span_of_load loads, Options.rootKey_eq chosen]

end Plan

end Deferred
