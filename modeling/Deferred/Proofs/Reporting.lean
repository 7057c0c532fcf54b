import Deferred.Generation.Install
import Deferred.Proofs.Plans
import Deferred.Proofs.Run

/-!
# What the stages report

The first stage that fails ends the making of a plan, and its cause becomes a report of that stage.
There are three causes that no stage reports: an annotation whose text cannot be read or in which a
look-up fails, a parameter with a name that no call can write, and a host whose system parameters
are no sequence.  A host is looked for by paths that have a name between any two dots, so nothing
else is wrong with them but that there is no such module.
-/

namespace Deferred

/-! ## Roots -/

namespace Host

/-- Is a root at hand, or a path with a name between any two dots? -/
def Root.IsWritten : Root → Prop
  | .path written => (Options.dottedParts written).all Text.isName = true
  | .module _ => True

/-- Looking for a module fails because it is not there, or refuses to be loaded. -/
theorem error_of_search {modules : Modules} {bound : Nat} {path : String} {error : ImportError}
    (fails : search modules bound path = .error error) :
    error ≠ .emptyPath ∧ ∀ relative, error ≠ .relativePath relative := by
  induction bound generalizing path with
  | zero =>
    cases fails
    simp
  | succ bound ih =>
    simp only [search, bind, Except.bind, throw, throwThe, MonadExceptOf.throw] at fails
    split at fails
    · cases fails
    · split at fails
      · cases fails
        simp
      · cases fails
        simp
      · split at fails
        · cases fails
          exact ih ‹_›
        · split at fails
          · cases fails
            simp
          · split at fails <;> cases fails <;> simp

/-- A path that begins with a dot, or with nothing at all, has no name before the first dot. -/
theorem not_all_isName {path : String}
    (bad : path = "" ∨ path.toList.head? = some '.') :
    (Options.dottedParts path).all Text.isName = false := by
  have noName : Text.isName "" = false := by decide
  rcases bad with rfl | isDot
  · decide
  · cases isPath : path.toList with
    | nil => simp [isPath] at isDot
    | cons first rest =>
      obtain rfl : first = '.' := by simpa [isPath] using isDot
      simp [Options.dottedParts, isPath, Options.dottedParts.splitAt, noName]

theorem error_of_find {modules : Modules} {path : String} {error : ImportError}
    (isWritten : (Options.dottedParts path).all Text.isName = true)
    (fails : find modules path = .error error) :
    error ≠ .emptyPath ∧ ∀ relative, error ≠ .relativePath relative := by
  rw [find] at fails
  split at fails
  · rename_i isEmpty
    rw [not_all_isName (.inl isEmpty)] at isWritten
    cases isWritten
  · split at fails
    · rename_i isDot
      rw [not_all_isName (.inr isDot)] at isWritten
      cases isWritten
    · exact error_of_search fails

/-- A root cannot be used because it is not there, because it lacks markers, or because its system
parameters are no sequence. -/
theorem error_of_load {sequence? : Value → Option (List Value)} {modules : Modules} {root : Root}
    {span : Option Span} {failure : Located HostError} (isWritten : root.IsWritten)
    (fails : load sequence? modules root span = .error failure) :
    (∃ name error, failure.error = .notImported name error ∧ error ≠ .emptyPath ∧
        ∀ relative, error ≠ .relativePath relative) ∨
      (∃ name missing, failure.error = .incomplete name missing) ∨
      failure.error = .paramsNotListed := by
  rw [load] at fails
  split at fails
  · rename_i error notFound
    cases fails
    refine .inl ⟨root.name, error, rfl, ?_⟩
    cases root with
    | path written => exact error_of_find isWritten notFound
    | module found =>
      rw [exports] at notFound
      split at notFound <;> cases notFound
  · rename_i exported _
    split at fails
    · rename_i error fault
      cases fails
      simp only [ofExports] at fault
      split at fault
      · cases fault
        exact .inr (.inl ⟨_, _, rfl⟩)
      · split at fault
        · cases fault
        · cases fault
          exact .inr (.inr rfl)
    · cases fails

end Host

namespace Options

theorem isWritten_of_root? {raw : Raw} {key : String} {root : Host.Root}
    (chosen : root? raw key = .ok (some root)) : root.IsWritten := by
  rw [root?] at chosen
  split at chosen
  · cases chosen
  · cases chosen
  · split at chosen
    · rename_i isWritten
      cases chosen
      exact isWritten
    · cases chosen
  · cases chosen
    trivial
  · cases chosen

/-- The root that is chosen by keywords is at hand or written as a path. -/
theorem isWritten_of_resolve {raw : Raw} {routine : String} {forEntity : Bool} {options : Options}
    (runs : resolve raw routine forEntity = .ok options) : options.root.IsWritten := by
  simp only [resolve, bind, Except.bind, pure, Except.pure, throw, throwThe,
    MonadExceptOf.throw] at runs
  have chosen : ∀ named, root? raw "ecs" = .ok named →
      ∀ path ∈ [Host.standaloneRoot, Host.defaultRoot], (named.getD (.path path)).IsWritten := by
    intro named isNamed path isKnown
    cases named with
    | some root => exact isWritten_of_root? isNamed
    | none =>
      have written : ∀ path ∈ [Host.standaloneRoot, Host.defaultRoot],
          (dottedParts path).all Text.isName = true := by decide
      exact written path isKnown
  cases ofRoot : root? raw "ecs" with
  | error error =>
    simp only [ofRoot] at runs
    repeat' split at runs
    all_goals cases runs
  | ok named =>
    simp only [ofRoot] at runs
    repeat' split at runs
    all_goals first | cases runs; exact chosen named ofRoot _ (by simp) | cases runs

end Options

/-! ## Stages -/

namespace Plan

variable {around : Surroundings} {target : Target} {raw : Options.Raw} {forEntity : Bool}
  {body : Value} {fault : Fault}

/-- The stages before any code, in their order. -/
def stages : List String := ["signature", "options", "host", "classify", "mode", "routing"]

/-- A fault is the report of a stage. -/
def Reports (stage : String) (fault : Fault) : Prop :=
  ∃ report : Report, fault = .rejected report ∧ report.stage = stage

/-- A cause that no stage reports. -/
inductive Escapes (around : Surroundings) (target : Target) : Fault → Prop
  /-- A parameter that can be given by name has a name that no call can write. -/
  | badName {failure : Located SignatureError} (name : String)
      (reads : Signature.ofTarget around.scope target = .error failure)
      (cause : failure.error = .badName name) :
    Escapes around target (.badParameterName name)
  /-- The text of an annotation cannot be read, or a look-up in it fails. -/
  | unread {failure : Located SignatureError} (qualname : String) (error : Hint.ResolveError)
      (reads : Signature.ofTarget around.scope target = .error failure)
      (cause : failure.error = .unresolved qualname error) (unexplained : error.isDiagnosed = false) :
    Escapes around target (Diagnosis.ofResolve around.describe error)
  /-- The system parameters of the host are no sequence. -/
  | paramsNotListed : Escapes around target (.misuse .noSequence)

theorem reports_of_signature {failure : Located SignatureError}
    (reads : Signature.ofTarget around.scope target = .error failure) :
    Reports "signature" (Diagnosis.ofSignature around.describe failure) ∨
      Escapes around target (Diagnosis.ofSignature around.describe failure) := by
  cases cause : failure.error with
  | notARoutine kind shown =>
    left
    simp only [Diagnosis.ofSignature, cause]
    exact ⟨_, rfl, rfl⟩
  | invalidReturn hint =>
    left
    simp only [Diagnosis.ofSignature, cause]
    exact ⟨_, rfl, rfl⟩
  | badName name =>
    right
    simp only [Diagnosis.ofSignature, cause]
    exact .badName name reads cause
  | unresolved qualname error =>
    cases isDiagnosed : error.isDiagnosed with
    | true =>
      left
      simp only [Diagnosis.ofSignature, cause, isDiagnosed, if_true]
      exact ⟨_, rfl, rfl⟩
    | false =>
      right
      simp only [Diagnosis.ofSignature, cause, isDiagnosed, Bool.false_eq_true, if_false]
      exact .unread qualname error reads cause isDiagnosed

theorem reports_of_host {sequence? : Value → Option (List Value)} {modules : Modules}
    {root : Host.Root} {span : Option Span} {failure : Located HostError}
    (isWritten : root.IsWritten)
    (loads : Host.load sequence? modules root span = .error failure) :
    Reports "host" (Diagnosis.ofHost failure) ∨
      Diagnosis.ofHost failure = .misuse .noSequence := by
  rcases Host.error_of_load isWritten loads with
    ⟨name, error, cause, notEmpty, notRelative⟩ | ⟨name, missing, cause⟩ | cause
  · left
    cases error with
    | emptyPath => exact absurd rfl notEmpty
    | relativePath path => exact absurd rfl (notRelative path)
    | _ =>
      simp only [Diagnosis.ofHost, cause]
      exact ⟨_, rfl, rfl⟩
  · left
    simp only [Diagnosis.ofHost, cause]
    exact ⟨_, rfl, rfl⟩
  · right
    simp only [Diagnosis.ofHost, cause]

/-- A stage fails, or hands on what it found to the stages that come after it. -/
theorem orReport_bind_eq_error {ε α β : Type} {report : ε → Fault} {outcome : Except ε α}
    {next : α → Except Fault β} (fails : (orReport report outcome).bind next = .error fault) :
    (∃ error, outcome = .error error ∧ fault = report error) ∨
      ∃ value, outcome = .ok value ∧ next value = .error fault := by
  cases outcome with
  | ok value => exact .inr ⟨value, rfl, fails⟩
  | error error =>
    cases fails
    exact .inl ⟨error, rfl, rfl⟩

/-- What stops the making of a plan is the report of a stage, or a cause that none of them reports. -/
theorem reports_of_build (fails : build around target raw forEntity body = .error fault) :
    (∃ stage ∈ stages, Reports stage fault) ∨ Escapes around target fault := by
  obtain ⟨failure, reads, rfl⟩ | ⟨signature, reads, fails⟩ := orReport_bind_eq_error fails
  · exact (reports_of_signature reads).imp_left fun reports => ⟨_, by decide, reports⟩
  obtain ⟨error, resolves, rfl⟩ | ⟨options, resolves, fails⟩ := orReport_bind_eq_error fails
  · exact .inl ⟨"options", by decide, _, rfl, rfl⟩
  obtain ⟨failure, loads, rfl⟩ | ⟨host, loads, fails⟩ := orReport_bind_eq_error fails
  · rcases reports_of_host (Options.isWritten_of_resolve resolves) loads with reports | escapes
    · exact .inl ⟨"host", by decide, reports⟩
    · exact .inr (escapes ▸ .paramsNotListed)
  obtain ⟨failure, sorts, rfl⟩ | ⟨classification, sorts, fails⟩ := orReport_bind_eq_error fails
  · exact .inl ⟨"classify", by decide, _, rfl, rfl⟩
  obtain ⟨error, chooses, rfl⟩ | ⟨mode, chooses, fails⟩ := orReport_bind_eq_error fails
  · exact .inl ⟨"mode", by decide, _, rfl, rfl⟩
  obtain ⟨error, routes, rfl⟩ | ⟨_, routes, fails⟩ := orReport_bind_eq_error fails
  · exact .inl ⟨"routing", by decide, _, rfl, rfl⟩
  · cases fails

end Plan

/-! ## An annotation that cannot be read -/

namespace Action

/-- A module with a routine `pay` whose annotation is not written as one. -/
def mistypedStore : Store where
  modules := { made := [("game_mod", [])], listed := ["game_mod"] }
  cells := #[
    { object := .dict [(.ofText "fee", .ofText "int int")] },
    { object := .function
        { name := "pay", qualname := "pay", home := .ofText "game_mod", doc := .absent
          parameters := [.plain "fee"]
          annotations := .object ClassId.dict 0
          body := .inert } }]

/-- The text is not reported as an annotation without a meaning. -/
theorem mistyped_text_escapes :
    kindOf? (planFor (.object ClassId.function 1) [] false) mistypedStore = some "SyntaxError" := by
  decide +kernel

end Action

end Deferred
