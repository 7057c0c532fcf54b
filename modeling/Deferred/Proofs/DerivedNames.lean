import Deferred.Options
import Deferred.Proofs.Words

/-!
# Derived names

The record and the extension of a command are named after its method.  All that a derived name
keeps of the method is its words in the casing of types, so methods that are written differently may
derive the same names; a record and an extension never do.

What the words drop may be all that made the method a name: `_1` is one, `1Command` is not.  Chosen
names are checked, derived ones are not, so such a method is only refused when its code is read.
-/

namespace Deferred.Options

open Text

variable {raw : Raw} {key routine first second : String} {forEntity flavour : Bool}
  {options : Options}

/-! ## Keywords that are left open -/

/-- Is the name that a keyword may choose left to be derived? -/
def leavesOpen (raw : Raw) (key : String) : Bool :=
  match raw.lookup key with
  | none => true
  | some .absent => true
  | some _ => false

/-- A keyword that passes its check holds a name that can be declared, unless it is left open. -/
theorem of_name? {chosen : Option String} (runs : name? raw key = .ok chosen) :
    leavesOpen raw key = chosen.isNone ∧ ∀ name ∈ chosen, isFreeName name = true := by
  rw [name?] at runs
  rw [leavesOpen]
  split at runs
  · rename_i isMissing
    cases runs
    rw [isMissing]
    exact ⟨rfl, fun _ isChosen => by cases isChosen⟩
  · rename_i isAbsent
    cases runs
    rw [isAbsent]
    exact ⟨rfl, fun _ isChosen => by cases isChosen⟩
  · rename_i isText
    split at runs
    · rename_i isFree
      cases runs
      rw [isText]
      exact ⟨rfl, fun _ isChosen => Option.some.inj isChosen ▸ isFree⟩
    · cases runs
  · cases runs

theorem eq_none_of_leavesOpen {chosen : Option String} (isOpen : leavesOpen raw key = true)
    (runs : name? raw key = .ok chosen) : chosen = none :=
  Option.isNone_iff_eq_none.mp ((of_name? runs).1.symm.trans isOpen)

/-- What the options call the record and the extension is what the keywords say, or what the method
name derives. -/
theorem names_of_resolve (runs : resolve raw routine forEntity = .ok options) :
    ∃ record extension, name? raw "struct_name" = .ok record ∧
      name? raw "trait_name" = .ok extension ∧
      options.recordName = record.getD (derivedRecordName forEntity options.methodName) ∧
      options.extensionName =
        extension.getD (derivedExtensionName forEntity options.methodName) := by
  simp only [resolve, Bind.bind, Except.bind, pure, Except.pure, throw, throwThe,
    MonadExceptOf.throw] at runs
  repeat' split at runs
  all_goals first
    | cases runs
      exact ⟨_, _, ‹name? raw "struct_name" = _›, ‹name? raw "trait_name" = _›, rfl, rfl⟩
    | cases runs

/-- Names that are left open are derived from the method name. -/
theorem derived_of_resolve (record : leavesOpen raw "struct_name" = true)
    (extension : leavesOpen raw "trait_name" = true)
    (runs : resolve raw routine forEntity = .ok options) :
    options.recordName = derivedRecordName forEntity options.methodName ∧
      options.extensionName = derivedExtensionName forEntity options.methodName := by
  obtain ⟨ofRecord, ofExtension, isRecord, isExtension, named, extended⟩ := names_of_resolve runs
  rw [eq_none_of_leavesOpen record isRecord] at named
  rw [eq_none_of_leavesOpen extension isExtension] at extended
  exact ⟨named, extended⟩

/-! ## Names that meet -/

/-- Records of one flavour share their name just where the methods have the same words. -/
theorem derivedRecordName_inj :
    derivedRecordName forEntity first = derivedRecordName forEntity second ↔
      pascalCase first = pascalCase second := by
  simp only [derivedRecordName, ← String.toList_inj, String.toList_append,
    List.append_cancel_right_eq]

/-- A record of one flavour has the name of one of the other where the method says `Entity` last. -/
theorem derivedRecordName_flavours :
    derivedRecordName false first = derivedRecordName true second ↔
      pascalCase first = pascalCase second ++ "Entity" := by
  have splits : suffix true = "Entity" ++ suffix false := rfl
  rw [derivedRecordName, derivedRecordName, splits]
  simp only [← String.toList_inj, String.toList_append, ← List.append_assoc,
    List.append_cancel_right_eq]

/-- Extensions share their name just where the flavour is the same and the methods have the same
words. -/
theorem derivedExtensionName_inj :
    derivedExtensionName forEntity first = derivedExtensionName flavour second ↔
      forEntity = flavour ∧ pascalCase first = pascalCase second := by
  have alike : derivedExtensionName flavour first = derivedExtensionName flavour second ↔
      pascalCase first = pascalCase second := by
    simp only [derivedExtensionName, ← String.toList_inj, String.toList_append, List.append_assoc,
      List.append_cancel_left_eq, List.append_cancel_right_eq]
  by_cases same : forEntity = flavour
  · simp [same, alike]
  · refine ⟨fun meet => ?_, fun both => absurd both.1 same⟩
    -- Names of the two flavours start with different letters.
    have starts := congrArg (·.toList.head?) meet
    cases forEntity <;> cases flavour <;>
      first
      | exact absurd rfl same
      | simp [derivedExtensionName, suffix] at starts

/-- The end of a text does not change when something is put before it. -/
theorem getLast?_derivedRecordName (forEntity : Bool) (method : String) :
    (derivedRecordName forEntity method).toList.getLast? = some 'd' := by
  rw [derivedRecordName, String.toList_append, List.getLast?_append]
  cases forEntity <;> rfl

theorem getLast?_derivedExtensionName (forEntity : Bool) (method : String) :
    (derivedExtensionName forEntity method).toList.getLast? = some 't' := by
  rw [derivedExtensionName, String.toList_append, List.getLast?_append]
  rfl

/-- No record shares its name with an extension. -/
theorem derivedRecordName_ne_derivedExtensionName :
    derivedRecordName forEntity first ≠ derivedExtensionName flavour second := by
  intro meet
  have ends := congrArg (·.toList.getLast?) meet
  simp [getLast?_derivedRecordName, getLast?_derivedExtensionName] at ends

/-! ## Names that can be declared -/

section Plain

variable {text : String}

/-- A text of letters and digits is a name unless a digit opens it. -/
theorem isIdentifier_of_isAlphanum (plain : ∀ c ∈ text.toList, c.isAlphanum = true) :
    isIdentifier text = text.toList.head?.any (!·.isDigit) := by
  rw [isIdentifier]
  cases isText : text.toList with
  | nil => rfl
  | cons first rest =>
    rw [isText] at plain
    have continues : rest.all CodePoint.continuesName = true := List.all_eq_true.mpr fun c isIn =>
      CodePoint.continuesName_of_isAlphanum (plain c (List.mem_cons_of_mem _ isIn))
    have opens := plain first List.mem_cons_self
    have small := CodePoint.toNat_lt_of_isAlphanum opens
    cases isAlpha : first.isAlpha with
    | true => simp [continues, isDigit_of_isAlpha isAlpha,
        CodePoint.startsName_of_isAlpha small isAlpha]
    | false =>
      have isDigit : first.isDigit = true :=
        (CodePoint.isAlphanum_iff.mp opens).resolve_left (by simp [isAlpha])
      have notUnderscore : first ≠ '_' := by
        rintro rfl
        exact absurd opens (by decide)
      simp [CodePoint.startsName, small, isAlpha, isDigit, notUnderscore]

theorem isReserved_of_isAlphanum (plain : ∀ c ∈ text.toList, c.isAlphanum = true) :
    isReserved text = false := by
  rw [isReserved]
  cases isText : text.toList with
  | nil => rfl
  | cons first rest =>
    have opens := plain first (by rw [isText]; exact List.mem_cons_self)
    have apart : ('_' == first) = false :=
      beq_false_of_ne (by rintro rfl; exact absurd opens (by decide))
    change (('_' == first) && _) = false
    rw [apart, Bool.false_and]

end Plain

theorem isAlphanum_of_mem_suffix : ∀ c ∈ (suffix forEntity).toList, c.isAlphanum = true := by
  cases forEntity <;> exact List.all_eq_true.mp rfl

theorem isAlphanum_of_mem_derivedRecordName (method : String) :
    ∀ c ∈ (derivedRecordName forEntity method).toList, c.isAlphanum = true := by
  intro c isIn
  rw [derivedRecordName, String.toList_append] at isIn
  exact (List.mem_append.mp isIn).elim isAlphanum_of_mem_pascalCase (isAlphanum_of_mem_suffix c)

theorem isAlphanum_of_mem_derivedExtensionName (method : String) :
    ∀ c ∈ (derivedExtensionName forEntity method).toList, c.isAlphanum = true := by
  intro c isIn
  simp only [derivedExtensionName, String.toList_append, List.mem_append] at isIn
  rcases isIn with ((isSuffix | isPlural) | isMethod) | isEnd
  · exact isAlphanum_of_mem_suffix c isSuffix
  · exact List.all_eq_true.mp (rfl : "s".toList.all Char.isAlphanum = true) c isPlural
  · exact isAlphanum_of_mem_pascalCase isMethod
  · exact List.all_eq_true.mp (rfl : "Ext".toList.all Char.isAlphanum = true) c isEnd

/-- Derived names are never kept for generated code. -/
theorem isReserved_derivedRecordName (forEntity : Bool) (method : String) :
    isReserved (derivedRecordName forEntity method) = false :=
  isReserved_of_isAlphanum (isAlphanum_of_mem_derivedRecordName method)

theorem isReserved_derivedExtensionName (forEntity : Bool) (method : String) :
    isReserved (derivedExtensionName forEntity method) = false :=
  isReserved_of_isAlphanum (isAlphanum_of_mem_derivedExtensionName method)

/-- No keyword ends as record names do. -/
theorem isKeyword_derivedRecordName (forEntity : Bool) (method : String) :
    isKeyword (derivedRecordName forEntity method) = false := by
  have apart : ∀ word ∈ keywords, ¬ "mand".toList <:+ word.toList := by decide
  have ends : "mand".toList <:+ (derivedRecordName forEntity method).toList := by
    rw [derivedRecordName, String.toList_append]
    exact (show "mand".toList <:+ (suffix forEntity).toList by cases forEntity <;> decide).trans
      (List.suffix_append _ _)
  exact eq_false_of_ne_true fun isIn => apart _ (List.contains_iff_mem.mp isIn) ends

theorem head?_derivedExtensionName (forEntity : Bool) (method : String) :
    (derivedExtensionName forEntity method).toList.head? =
      some (if forEntity then 'E' else 'C') := by
  simp only [derivedExtensionName, String.toList_append]
  cases forEntity <;> rfl

/-- No keyword opens as extension names do. -/
theorem isKeyword_derivedExtensionName (forEntity : Bool) (method : String) :
    isKeyword (derivedExtensionName forEntity method) = false := by
  have apart : ∀ word ∈ keywords, word.toList.head? ≠ some 'E' ∧ word.toList.head? ≠ some 'C' := by
    decide
  have opens := head?_derivedExtensionName forEntity method
  refine eq_false_of_ne_true fun isIn => ?_
  have other := apart _ (List.contains_iff_mem.mp isIn)
  cases forEntity
  · exact other.2 opens
  · exact other.1 opens

/-- Every method derives an extension name that can be declared. -/
theorem isFreeName_derivedExtensionName (forEntity : Bool) (method : String) :
    isFreeName (derivedExtensionName forEntity method) = true := by
  rw [isFreeName, isName, isReserved_derivedExtensionName, isKeyword_derivedExtensionName,
    isIdentifier_of_isAlphanum (isAlphanum_of_mem_derivedExtensionName method),
    head?_derivedExtensionName]
  cases forEntity <;> rfl

/-- Does the first ASCII letter or digit of a method name happen to be a digit? -/
def opensWithDigit (method : String) : Bool :=
  (method.toList.find? Char.isAlphanum).any Char.isDigit

/-- A derived record name opens as the words of the method do. -/
theorem head?_derivedRecordName (forEntity : Bool) (method : String) :
    (derivedRecordName forEntity method).toList.head?.any Char.isDigit = opensWithDigit method := by
  rw [derivedRecordName, String.toList_append, List.head?_append, head?_pascalCase, opensWithDigit]
  cases method.toList.find? Char.isAlphanum with
  | none => cases forEntity <;> rfl
  | some first => exact isDigit_toUpper first

/-- A method derives a record name that can be declared unless its words open with a digit. -/
theorem isFreeName_derivedRecordName (forEntity : Bool) (method : String) :
    isFreeName (derivedRecordName forEntity method) = !opensWithDigit method := by
  rw [isFreeName, isName, isReserved_derivedRecordName, isKeyword_derivedRecordName,
    isIdentifier_of_isAlphanum (isAlphanum_of_mem_derivedRecordName method), derivedRecordName,
    String.toList_append, List.head?_append, head?_pascalCase, opensWithDigit]
  cases method.toList.find? Char.isAlphanum with
  | none => cases forEntity <;> rfl
  | some first => simp [isDigit_toUpper]

/-- The words of a name need not make a name. -/
example : isFreeName "_1" = true ∧ isFreeName (derivedRecordName false "_1") = false := by decide

/-- The extension always goes by a name that can be declared.  The record does too unless its name
was left open and the words of the method open with a digit. -/
theorem isFreeName_of_resolve (runs : resolve raw routine forEntity = .ok options) :
    isFreeName options.extensionName = true ∧
      isFreeName options.recordName =
        !(leavesOpen raw "struct_name" && opensWithDigit options.methodName) := by
  obtain ⟨record, extension, ofRecord, ofExtension, named, extended⟩ := names_of_resolve runs
  rw [named, extended, (of_name? ofRecord).1]
  constructor
  · cases extension with
    | none => exact isFreeName_derivedExtensionName forEntity _
    | some name => exact (of_name? ofExtension).2 name rfl
  · cases record with
    | none => exact isFreeName_derivedRecordName forEntity _
    | some name => exact (of_name? ofRecord).2 name rfl

/-- A record name is only refused for the digit that opens it. -/
theorem isFreeName_of_head? (runs : resolve raw routine forEntity = .ok options)
    (opens : options.recordName.toList.head?.any Char.isDigit = false) :
    isFreeName options.recordName = true := by
  obtain ⟨record, _, ofRecord, _, named, _⟩ := names_of_resolve runs
  rw [named] at opens ⊢
  cases record with
  | none =>
    rw [Option.getD_none, head?_derivedRecordName] at opens
    exact (isFreeName_derivedRecordName forEntity _).trans (by rw [opens]; rfl)
  | some name => exact (of_name? ofRecord).2 name rfl

theorem isReserved_of_isFreeName {name : String} (isFree : isFreeName name = true) :
    isReserved name = false := by
  rw [isFreeName, Bool.and_eq_true, Bool.not_eq_true'] at isFree
  exact isFree.2

/-- The record and the extension go by names that are not kept for generated code. -/
theorem isReserved_of_resolve (runs : resolve raw routine forEntity = .ok options) :
    isReserved options.recordName = false ∧ isReserved options.extensionName = false := by
  refine ⟨?_, isReserved_of_isFreeName (isFreeName_of_resolve runs).1⟩
  obtain ⟨record, _, ofRecord, _, named, _⟩ := names_of_resolve runs
  rw [named]
  cases record with
  | none => exact isReserved_derivedRecordName forEntity _
  | some name => exact isReserved_of_isFreeName ((of_name? ofRecord).2 name rfl)

end Deferred.Options
