import Deferred.Data.Pairing
import Deferred.Proofs.Bindings
import Deferred.Proofs.Reporting
import Deferred.Store.Serial

/-!
# Reports that are plain data already

A context of scalars, of tuples and lists, and of tables whose keys are different texts is plain data
already.  Such a report is handed on without a fault and with its context as it is.  The context is
of finite depth, so no object in it is met again inside itself.

The contexts that the stages make are of that kind, so a diagnosis is never lost on the way to its
reader.  A context that a caller makes need not be: an entity that is a key is taken apart into a
table, and a table cannot be a key.
-/

namespace Deferred

namespace Store

variable {store : Store} {depth bound : Nat} {value : Value} {data : Plain} {opened : List Ref}
  {entries : List (Value × Value)} {parts : List (String × Plain)}

/-! ## Plain data -/

/-- Entries of a table under different texts, and what their values are. -/
structure ArePlainEntries (related : Value → Plain → Prop) (entries : List (Value × Value))
    (parts : List (String × Plain)) : Prop where
  each : List.Forall₂ (fun entry part => (∃ mark, entry.1 = .text part.1 mark) ∧
    related entry.2 part.2) entries parts
  apart : (parts.map Prod.fst).Nodup

/-- A value is plain data, where its parts are what they are related to. -/
inductive IsPlain (store : Store) (related : Value → Plain → Prop) : Value → Plain → Prop where
  | absent : IsPlain store related .absent .absent
  | bool (value : Bool) : IsPlain store related (.bool value) (.bool value)
  | int (value : Int) (mark : Mark) : IsPlain store related (.int value mark) (.int value)
  | float (value : Float) (mark : Mark) : IsPlain store related (.float value mark) (.float value)
  | text (value : String) (mark : Mark) : IsPlain store related (.text value mark) (.text value)
  | tuple {items : List Value} {parts : List Plain} (mark : Mark)
      (each : List.Forall₂ related items parts) :
    IsPlain store related (.tuple items mark) (.list parts)
  | list {items : List Value} {parts : List Plain} {place : Ref} (id : ClassId)
      (stands : store.object? place = some (.list items))
      (each : List.Forall₂ related items parts) :
    IsPlain store related (.object id place) (.list parts)
  | table {entries : List (Value × Value)} {parts : List (String × Plain)} {place : Ref}
      (id : ClassId) (stands : store.object? place = some (.dict entries))
      (areEntries : ArePlainEntries related entries parts) :
    IsPlain store related (.object id place) (.table parts)

/-- A value is plain data that is nested to a depth of less than `depth`. -/
def PlainWithin (store : Store) : Nat → Value → Plain → Prop
  | 0 => fun _ _ => False
  | depth + 1 => IsPlain store (PlainWithin store depth)

theorem ArePlainEntries.imp {related other : Value → Plain → Prop}
    (areEntries : ArePlainEntries related entries parts)
    (implies : ∀ value data, related value data → other value data) :
    ArePlainEntries other entries parts := by
  refine ⟨areEntries.each.imp ?_, areEntries.apart⟩
  intro entry part isPart
  exact ⟨isPart.1, implies _ _ isPart.2⟩

/-- What is plain data is plain data to any greater depth. -/
theorem PlainWithin.deeper (isPlain : store.PlainWithin depth value data) :
    store.PlainWithin (depth + 1) value data := by
  induction depth generalizing value data with
  | zero => exact isPlain.elim
  | succ depth ih =>
    cases isPlain with
    | absent => exact .absent
    | bool value => exact .bool value
    | int value mark => exact .int value mark
    | float value mark => exact .float value mark
    | text value mark => exact .text value mark
    | tuple mark each => exact .tuple mark (each.imp fun _ _ => ih)
    | list id stands each => exact .list id stands (each.imp fun _ _ => ih)
    | table id stands areEntries => exact .table id stands (areEntries.imp fun _ _ => ih)

/-- Whether an object is plain data is told by what stands at its place. -/
theorem PlainWithin.of_place {id : ClassId} {place : Ref}
    (isPlain : store.PlainWithin depth (.object id place) data) (other : ClassId) :
    store.PlainWithin depth (.object other place) data := by
  cases depth with
  | zero => exact isPlain
  | succ depth =>
    cases isPlain with
    | list _ stands each => exact .list other stands each
    | table _ stands areEntries => exact .table other stands areEntries

/-! ## Handing it on -/

theorem textOf_text (store : Store) (text : String) (mark : Mark) :
    store.textOf (.text text mark) = text := rfl

/-- Entries under different texts are written under these texts. -/
theorem ArePlainEntries.putAll_eq {related : Value → Plain → Prop}
    (areEntries : ArePlainEntries related entries parts) {write : Value → Plain}
    (writes : ∀ value data, related value data → write value = data) :
    Entries.putAll [] (entries.map fun (key, value) => (store.textOf key, write value)) =
      parts := by
  have isWritten : (entries.map fun (key, value) => (store.textOf key, write value)) =
      parts.map id := by
    refine map_eq_of_forall₂ areEntries.each ?_
    rintro ⟨key, value⟩ ⟨text, data⟩ ⟨⟨mark, rfl⟩, isData⟩
    exact Prod.ext (store.textOf_text text mark) (writes value data isData)
  rw [isWritten, List.map_id]
  exact Entries.putAll_of_nodup areEntries.apart

/-- Plain data is handed on as it is. -/
theorem PlainWithin.plainWithin_eq (isPlain : store.PlainWithin depth value data)
    (fits : depth ≤ bound) : store.plainWithin bound value = data := by
  induction depth generalizing value data bound with
  | zero => exact isPlain.elim
  | succ depth ih =>
    obtain ⟨bound, rfl⟩ := Nat.exists_eq_add_of_le' (Nat.lt_of_lt_of_le depth.succ_pos fits)
    have deeper : ∀ item part, store.PlainWithin depth item part →
        store.plainWithin bound item = part := by
      intro item part isPart
      exact ih isPart (Nat.le_of_succ_le_succ fits)
    have asList : ∀ {items parts}, List.Forall₂ (store.PlainWithin depth) items parts →
        items.map (store.plainWithin bound) = parts := by
      intro items parts each
      rw [map_eq_of_forall₂ each deeper, List.map_id']
    cases isPlain with
    | absent | bool | int | float | text => rfl
    | tuple mark each => exact congrArg Plain.list (asList each)
    | list id stands each =>
      simp only [plainWithin, stands, asList each]
    | table id stands areEntries =>
      simp only [plainWithin, stands, areEntries.putAll_eq deeper]

/-! ## Taking it apart -/

theorem keepsKey_text (text : String) (mark : Mark) :
    store.keepsKey bound (.text text mark) = true := by
  cases bound with
  | zero => rfl
  | succ bound => cases bound <;> rfl

/-- Plain data can be taken apart.  An object of it that has been opened is not met again, since it is
nested deeper than everything inside it. -/
theorem PlainWithin.takesApart_eq (isPlain : store.PlainWithin depth value data)
    (closed : ∀ place ∈ opened, ∀ id data, ¬ store.PlainWithin depth (.object id place) data) :
    store.takesApart opened bound value = true := by
  induction depth generalizing value data bound opened with
  | zero => exact isPlain.elim
  | succ depth ih =>
    have stillClosed : ∀ place ∈ opened, ∀ id data,
        ¬ store.PlainWithin depth (.object id place) data := by
      intro place isOpened id data isPlain
      exact closed place isOpened id data isPlain.deeper
    by_cases lessDeep : ∃ data, store.PlainWithin depth value data
    · obtain ⟨data, isPlain⟩ := lessDeep
      exact ih isPlain stillClosed
    · cases bound with
      | zero => rfl
      | succ bound =>
        -- The place of this object joins those that were opened.
        have nowClosed : ∀ id place, value = .object id place → ∀ other ∈ place :: opened,
            ∀ id data, ¬ store.PlainWithin depth (.object id other) data := by
          intro id place isObject other isOpened another data isPlain
          rcases List.mem_cons.mp isOpened with rfl | isOpened
          · exact lessDeep ⟨data, isObject ▸ isPlain.of_place id⟩
          · exact stillClosed other isOpened another data isPlain
        have notOpened : ∀ id place, value = .object id place →
            opened.contains place = false := by
          intro id place isObject
          refine Bool.eq_false_iff.mpr fun isOpened => ?_
          exact closed place (List.contains_iff_mem.mp isOpened) id data (isObject ▸ isPlain)
        cases isPlain with
        | absent | bool | int | float | text => cases bound <;> rfl
        | tuple mark each => exact all_of_forall₂ each fun item part isPart => ih isPart stillClosed
        | list id stands each =>
          simp only [takesApart, notOpened _ _ rfl, stands]
          exact all_of_forall₂ each fun item part isPart => ih isPart (nowClosed _ _ rfl)
        | table id stands areEntries =>
          simp only [takesApart, notOpened _ _ rfl, stands]
          refine all_of_forall₂ areEntries.each ?_
          rintro ⟨key, value⟩ part ⟨⟨mark, rfl⟩, isPart⟩
          exact Bool.and_eq_true_iff.mpr ⟨keepsKey_text part.1 mark, ih isPart (nowClosed _ _ rfl)⟩

/-! ## Reports -/

/-- A report whose context is plain data is handed on with its context as it is. -/
theorem serialise_of_plain {report : Report}
    (areEntries : ArePlainEntries (store.PlainWithin store.depthBound) report.context parts) :
    store.serialise report = .ok (.table
      [("stage", .text report.stage), ("error_type", .text report.kind),
        ("message", .text report.message), ("span", (report.span.map Plain.ofSpan).getD .absent),
        ("context", .table parts)]) := by
  have passes : (report.context.all fun (key, value) =>
      store.keepsKey store.depthBound key && store.takesApart [] store.depthBound value) =
        true := by
    refine all_of_forall₂ areEntries.each ?_
    rintro ⟨key, value⟩ part ⟨⟨mark, rfl⟩, isPart⟩
    refine Bool.and_eq_true_iff.mpr ⟨keepsKey_text part.1 mark, ?_⟩
    exact isPart.takesApart_eq fun place isOpened => absurd isOpened List.not_mem_nil
  have isContext : store.plainContext report.context = .table parts := by
    refine congrArg Plain.table (areEntries.putAll_eq ?_)
    intro value data isPlain
    exact isPlain.plainWithin_eq le_rfl
  simp only [serialise, passes, isContext, if_true]

/-- A report on what an entity has lost. -/
def damageReport : Report where
  stage := "run"
  kind := "DamageError"
  message := "too much damage"
  span := none
  context := [(.ofText "damage", .object ClassId.dict 0)]

/-- The table that the report is about has an entity as its key. -/
def damageStore : Store where
  cells := #[{ object := .dict [(.entity (.ofInt 1) 0, .ofInt 2)] }]

/-- Not every report can be handed on. -/
theorem entity_key_is_taken_apart : (damageStore.serialise damageReport).isOk = false := by
  decide +kernel

end Store

/-! ## The reports of the stages -/

/-- An entry of a context as the stages make it. -/
inductive Note where
  | text (key value : String)
  | texts (key : String) (values : List String)

namespace Note

@[simp] def key : Note → String
  | text key _ => key
  | texts key _ => key

/-- The entry that holds a note. -/
def entry : Note → Value × Value
  | text key value => Report.noteText key value
  | texts key values => Report.noteTexts key values

/-- A note as plain data. -/
def part : Note → String × Plain
  | text key value => (key, .text value)
  | texts key values => (key, .list (values.map .text))

/-- Notes under different keys are plain data. -/
theorem arePlainEntries {store : Store} {depth : Nat} {notes : List Note}
    (apart : (notes.map key).Nodup) :
    Store.ArePlainEntries (store.PlainWithin (depth + 2)) (notes.map entry) (notes.map part) := by
  constructor
  · rw [List.forall₂_map_left_iff, List.forall₂_map_right_iff, List.forall₂_same]
    intro note _
    cases note with
    | text key value => exact ⟨⟨0, rfl⟩, .text value 0⟩
    | texts key values =>
      refine ⟨⟨0, rfl⟩, .tuple 0 ?_⟩
      rw [List.forall₂_map_left_iff, List.forall₂_map_right_iff, List.forall₂_same]
      exact fun text _ => .text text 0
  · have keys : (notes.map part).map Prod.fst = notes.map key := by
      rw [List.map_map]
      exact List.map_congr_left fun note _ => by cases note <;> rfl
    rwa [keys]

end Note

/-- A fault, if it is a report, is one whose context is made of notes under different keys. -/
def Fault.IsNoted (fault : Fault) : Prop :=
  ∀ report, fault = .rejected report →
    ∃ notes : List Note, report.context = notes.map Note.entry ∧ (notes.map Note.key).Nodup

namespace Diagnosis

variable {describe : Value → String}

theorem isNoted_of_notes {report : Report} (notes : List Note)
    (areNotes : report.context = notes.map Note.entry) (apart : (notes.map Note.key).Nodup) :
    (Fault.rejected report).IsNoted := by
  rintro _ ⟨⟩
  exact ⟨notes, areNotes, apart⟩

theorem isNoted_ofSignature (failure : Located SignatureError) :
    (ofSignature describe failure).IsNoted := by
  simp only [ofSignature]
  cases failure.error with
  | badName name => rintro _ ⟨⟩
  | notARoutine kind shown => exact isNoted_of_notes [.text "target" shown] rfl (by simp)
  | invalidReturn hint =>
    exact isNoted_of_notes [.text "annotation" (describe hint)] rfl (by simp)
  | unresolved qualname error =>
    cases isDiagnosed : error.isDiagnosed with
    | true =>
      simp only [isDiagnosed, if_true]
      exact isNoted_of_notes [.text "function" qualname] rfl (by simp)
    | false =>
      simp only [isDiagnosed, Bool.false_eq_true, if_false]
      cases error <;> rintro _ ⟨⟩

theorem isNoted_ofOptions (spans : SourceMap) (error : OptionsError) :
    (ofOptions describe spans error).IsNoted := by
  cases error with
  | invalid key words input =>
    exact isNoted_of_notes [.text "option" _, .text "input" (describe input)] rfl (by simp)
  | _ => exact isNoted_of_notes [.text "option" _] rfl (by simp)

theorem isNoted_ofHost (failure : Located HostError) : (ofHost failure).IsNoted := by
  simp only [ofHost]
  cases failure.error with
  | notImported root error =>
    cases error with
    | emptyPath | relativePath => rintro _ ⟨⟩
    | _ => exact isNoted_of_notes [.text "root" root] rfl (by simp)
  | incomplete root missing =>
    exact isNoted_of_notes [.text "root" root, .texts "missing" missing] rfl (by simp)
  | paramsNotListed => rintro _ ⟨⟩

theorem isNoted_ofClassify (signature : Signature) (failure : ClassifyFailure) :
    (ofClassify describe signature failure).IsNoted := by
  obtain ⟨error, parameter⟩ := failure
  -- What else is known has keys of its own, whether a parameter is to blame or not.
  have extra : ∃ notes : List Note, classifyNotes describe error = notes.map Note.entry ∧
      (("function" :: "parameter" :: notes.map Note.key).Nodup) := by
    cases error with
    | reservedInPattern names => exact ⟨[.texts "names" names], rfl, by simp⟩
    | imbalanced names types =>
      exact ⟨[.texts "names" names, .texts "types" (types.map describe)], rfl, by simp⟩
    | foreignMarker marker hint root =>
      exact ⟨[.text "annotation" (describe hint), .text "root" root], rfl, by simp⟩
    | _ => exact ⟨[], rfl, by simp⟩
  obtain ⟨notes, areNotes, apart⟩ := extra
  cases parameter with
  | none =>
    refine isNoted_of_notes (.text "function" signature.qualname :: notes) ?_ ?_
    · exact congrArg (_ :: ·) areNotes
    · exact apart.sublist (.cons_cons _ (List.sublist_cons_self _ _))
  | some name =>
    refine isNoted_of_notes
      (.text "function" signature.qualname :: .text "parameter" name :: notes) ?_ apart
    exact congrArg (_ :: _ :: ·) areNotes

theorem isNoted_ofMode (signature : Signature) (error : ModeError) :
    (ofMode signature error).IsNoted :=
  isNoted_of_notes
    [.text "function" signature.qualname, .text "parameter" error.parameter.name] rfl (by simp)

theorem isNoted_ofRouting (signature : Signature) (error : RoutingError) :
    (ofRouting signature error).IsNoted :=
  isNoted_of_notes [.text "function" signature.qualname] rfl (by simp)

theorem isNoted_ofAssembly (qualname : String) (span : Span) (error : AssemblyError) :
    (ofAssembly qualname span error).IsNoted := by
  cases error with
  | conflict found =>
    exact isNoted_of_notes [.text "function" qualname, .text "binding" found.binding] rfl
      (by simp)
  | failed kind words =>
    exact isNoted_of_notes [.text "function" qualname, .text "exception" kind] rfl (by simp)

theorem isNoted_ofInstall (qualname : String) (spans : SourceMap) (error : InstallError) :
    (ofInstall qualname spans error).IsNoted := by
  cases error with
  | attributeTaken hostType method =>
    exact isNoted_of_notes [.text "function" qualname, .text "host_type" hostType] rfl (by simp)
  | nameOfRoutine name key =>
    exact isNoted_of_notes [.text "function" qualname, .text "name" name] rfl (by simp)
  | nameTaken module name key =>
    exact isNoted_of_notes [.text "function" qualname, .text "name" name] rfl (by simp)

end Diagnosis

namespace Plan

open Diagnosis

variable {around : Surroundings} {target : Target} {raw : Options.Raw} {forEntity : Bool}
  {body : Value} {fault : Fault}

/-- What stops the making of a plan is no report, or one whose context is made of notes. -/
theorem isNoted_of_build (fails : build around target raw forEntity body = .error fault) :
    fault.IsNoted := by
  obtain ⟨failure, -, rfl⟩ | ⟨signature, -, fails⟩ := orReport_bind_eq_error fails
  · exact isNoted_ofSignature failure
  obtain ⟨error, -, rfl⟩ | ⟨options, -, fails⟩ := orReport_bind_eq_error fails
  · exact isNoted_ofOptions signature.spans error
  obtain ⟨failure, -, rfl⟩ | ⟨host, -, fails⟩ := orReport_bind_eq_error fails
  · exact isNoted_ofHost failure
  obtain ⟨failure, -, rfl⟩ | ⟨classification, -, fails⟩ := orReport_bind_eq_error fails
  · exact isNoted_ofClassify signature failure
  obtain ⟨error, -, rfl⟩ | ⟨mode, -, fails⟩ := orReport_bind_eq_error fails
  · exact isNoted_ofMode signature error
  obtain ⟨error, -, rfl⟩ | ⟨_, -, fails⟩ := orReport_bind_eq_error fails
  · exact isNoted_ofRouting signature error
  · cases fails

end Plan

/-- What a generation reports: a stage that makes the plan, the assembly of the code or the
installation. -/
inductive Fault.OfGeneration : Fault → Prop
  | planned {around : Surroundings} {target : Target} {raw : Options.Raw} {forEntity : Bool}
      {body : Value} {fault : Fault}
      (fails : Plan.build around target raw forEntity body = .error fault) : OfGeneration fault
  | assembled (qualname : String) (span : Span) (error : AssemblyError) :
    OfGeneration (Diagnosis.ofAssembly qualname span error)
  | installed (qualname : String) (spans : SourceMap) (error : InstallError) :
    OfGeneration (Diagnosis.ofInstall qualname spans error)

/-- Every report of a generation can be handed on as plain data, with its context as it is. -/
theorem Store.serialise_of_generation {store : Store} {report : Report}
    (isReport : Fault.OfGeneration (.rejected report)) :
    ∃ notes : List Note, report.context = notes.map Note.entry ∧
      store.serialise report = .ok (.table
        [("stage", .text report.stage), ("error_type", .text report.kind),
          ("message", .text report.message), ("span", (report.span.map Plain.ofSpan).getD .absent),
          ("context", .table (notes.map Note.part))]) := by
  have isNoted : (Fault.rejected report).IsNoted := by
    cases isReport with
    | planned fails => exact Plan.isNoted_of_build fails
    | assembled qualname span error => exact Diagnosis.isNoted_ofAssembly qualname span error
    | installed qualname spans error => exact Diagnosis.isNoted_ofInstall qualname spans error
  obtain ⟨notes, areNotes, apart⟩ := isNoted report rfl
  refine ⟨notes, areNotes, Store.serialise_of_plain ?_⟩
  rw [areNotes]
  exact Note.arePlainEntries apart

end Deferred
