import Deferred.Proofs.Calling

/-!
# The class of a record

A record class stands below a base of the host.  What it has itself comes from its fields and from
the body that declared it; everything else is found on its base, where the host is untouched.
-/

namespace Deferred

open Store Action

/-- The classes above a record with a base of the host. -/
def aboveRecord (base : ClassId) (isGeneric : Bool) : List ClassId :=
  base :: ClassId.abstract :: ((if isGeneric then [ClassId.generic] else []) ++ [ClassId.object])

/-- A class is that of records with these fields, below a base of the host. -/
structure Store.HasRecord (store : Store) (id base : ClassId) (fields : List RecordField) :
    Prop where
  isRecord : ∃ serial home name, id = .record serial home name .abstract
  isBase : base = ClassId.command ∨ base = ClassId.entityCommand
  declared : ∃ declared isGeneric, Entries.get? store.generated id = some declared ∧
    declared.ancestors = id :: aboveRecord base isGeneric ∧ declared.fields = some fields ∧
    declared.settles = false
  present : ∀ name, (id, name) ∉ store.removed

namespace Store

variable {store : Store} {id base : ClassId} {fields : List RecordField} {name : String}

/-! ## The bases of the host -/

theorem members_object : ClassId.object.members = [] := rfl

theorem members_abstract :
    ClassId.abstract.members = [("__slots__", .value (.tuple [] 0))] := rfl

theorem members_generic :
    ClassId.generic.members = [("__slots__", .value (.tuple [] 0))] := rfl

theorem members_command :
    ClassId.command.members = [("apply", .method [CallParameter.plain "world"])] := rfl

theorem members_entityCommand :
    ClassId.entityCommand.members =
      [("apply", .method [CallParameter.plain "entity", CallParameter.plain "world"]),
        ("with_entity", .method [CallParameter.plain "entity"])] := rfl

theorem mem_hostClasses_of_isBase (isBase : base = ClassId.command ∨ base = ClassId.entityCommand) :
    base ∈ hostClasses := by
  rcases isBase with rfl | rfl <;> decide

theorem ancestors_base (isBase : base = ClassId.command ∨ base = ClassId.entityCommand) :
    ({} : Store).ancestors base = [base, ClassId.abstract, ClassId.object] := by
  rcases isBase with rfl | rfl <;> rfl

theorem lookup_slots (notSlots : name ≠ "__slots__") :
    [("__slots__", Member.value (.tuple [] 0))].lookup name = none := by
  rw [List.lookup_cons, beq_false_of_ne notSlots]
  rfl

/-- What the bases of records have from the start. -/
theorem find_base (isBase : base = ClassId.command ∨ base = ClassId.entityCommand)
    (name : String) :
    ({} : Store).find base name =
      match base.members.lookup name with
      | some member => some (memberOf base name member)
      | none =>
        if name = "__slots__" then some (.value (.tuple [] 0))
        else if name = "__weakref__" then some (.member base name .property)
        else if ClassId.rootMembers.contains name then some (.member ClassId.object name .other)
        else none := by
  have referable : ({} : Store).referable? base = some base := by
    rcases isBase with rfl | rfl <;> rfl
  rw [find, ancestors_base isBase, referable]
  simp only [List.findSome?_cons, ownFound?_empty, members_object, members_abstract]
  cases base.members.lookup name with
  | some member => rfl
  | none =>
    by_cases slots : name = "__slots__"
    · subst slots
      rfl
    · simp [slots, lookup_slots slots]

/-- The root of all classes has nothing but special members. -/
theorem isSpecial_of_mem_rootMembers (isRoot : name ∈ ClassId.rootMembers) :
    isSpecial name = true := by
  revert name
  decide

/-- A name that is kept on a base and stands on no class but the root is special. -/
theorem isSpecial_of_isKept (isBase : base = ClassId.command ∨ base = ClassId.entityCommand)
    (kept : isKept base name = true) (free : base.members.lookup name = none)
    (notSlots : name ≠ "__slots__") : isSpecial name = true := by
  rw [isKept, find_base isBase, free] at kept
  simp only [notSlots, if_false, Bool.or_eq_true] at kept
  rcases kept with isFound | isSpecial
  · split at isFound
    · subst name
      rfl
    · split at isFound
      · rename_i isRoot
        exact isSpecial_of_mem_rootMembers (by simpa using isRoot)
      · simp at isFound
  · exact isSpecial

/-! ## Looking above a record -/

/-- What the classes above a record have under a name, the root of all classes left out. -/
def foundAbove (store : Store) (base : ClassId) (isGeneric : Bool) (name : String) :
    Option Found :=
  (aboveRecord base isGeneric).findSome? (store.ownFound? · name)

/-- Members of the base of a record are found as they are from the start. -/
theorem Intact.foundAbove_eq (intact : store.Intact)
    (isBase : base = ClassId.command ∨ base = ClassId.entityCommand) (isGeneric : Bool)
    (kept : isKept base name = true) :
    store.foundAbove base isGeneric name = ({} : Store).foundAbove base false name := by
  have isHost := mem_hostClasses_of_isBase isBase
  have own : ∀ parent ∈ [base, ClassId.abstract, ClassId.object],
      store.ownFound? parent name = ({} : Store).ownFound? parent name := by
    intro parent isAbove
    rw [← ancestors_base isBase] at isAbove
    obtain ⟨free, present⟩ := intact.unchanged base isHost name kept parent isAbove
    exact intact.ownFound?_eq (isDeclared_of_mem_ancestors isHost isAbove) free present
  have ofBase := own base (by simp)
  have ofAbstract := own ClassId.abstract (by simp)
  have ofRoot := own ClassId.object (by simp)
  cases isGeneric with
  | false =>
    simp only [foundAbove, aboveRecord, Bool.false_eq_true, if_false, List.nil_append,
      List.findSome?_cons, List.findSome?_nil, ofBase, ofAbstract, ofRoot]
  | true =>
    simp only [foundAbove, aboveRecord, Bool.false_eq_true, if_false, if_true, List.nil_append,
      List.cons_append, List.findSome?_cons, List.findSome?_nil, ofBase, ofAbstract, ofRoot]
    simp only [ownFound?_empty, members_abstract, members_object]
    cases free : base.members.lookup name with
    | some member => rfl
    | none =>
      by_cases slots : name = "__slots__"
      · subst slots
        rfl
      · -- The name is special, so nothing was put on the class of generic classes either.
        have special := isSpecial_of_isKept isBase kept free slots
        have keptToo : isKept ClassId.generic name = true := by simp [isKept, special]
        obtain ⟨unset, present⟩ := intact.unchanged ClassId.generic (by decide) name keptToo
          ClassId.generic (by decide)
        rw [intact.ownFound?_eq rfl unset present, ownFound?_empty, members_generic]
        simp [lookup_slots slots]

/-- The class that lets a class below a base be referred to is the base. -/
theorem referable?_above (isRecord : ∃ serial home name, id = .record serial home name .abstract)
    (isBase : base = ClassId.command ∨ base = ClassId.entityCommand) {isGeneric : Bool}
    (above : store.ancestors id = id :: aboveRecord base isGeneric) :
    store.referable? id = some base := by
  obtain ⟨serial, home, owner, rfl⟩ := isRecord
  rw [referable?, above]
  rcases isBase with rfl | rfl <;> cases isGeneric <;> rfl

/-- What a class below a base does not have itself is found as it is on the base from the start. -/
theorem Intact.find_above (intact : store.Intact)
    (isRecord : ∃ serial home name, id = .record serial home name .abstract)
    (isBase : base = ClassId.command ∨ base = ClassId.entityCommand) {isGeneric : Bool}
    (above : store.ancestors id = id :: aboveRecord base isGeneric)
    (unowned : store.ownFound? id name = none) (kept : isKept base name = true) :
    store.find id name = ({} : Store).find base name := by
  have rest := intact.foundAbove_eq isBase isGeneric kept
  have ofBase : ({} : Store).referable? base = some base := by
    rcases isBase with rfl | rfl <;> rfl
  have start : ({} : Store).ancestors base = aboveRecord base false := ancestors_base isBase
  rw [find, find, referable?_above isRecord isBase above, ofBase, start, above]
  simp only [List.findSome?_cons, unowned]
  rw [foundAbove, foundAbove] at rest
  rw [rest]

/-! ## Looking at a record -/

theorem members_record (serial : Nat) (home owner : String) (maker : Maker) :
    (ClassId.record serial home owner maker).members = [] := rfl

/-- The members that a record class has for being made of fields. -/
def recordMembers : List String := ["__hash__", "__init__", "__eq__", "__repr__"]

namespace HasRecord

theorem recordFields?_eq (record : store.HasRecord id base fields) :
    store.recordFields? id = some fields := by
  obtain ⟨declared, isGeneric, isDeclared, -, hasFields, -⟩ := record.declared
  rw [recordFields?, isDeclared, Option.bind_some, hasFields]

theorem ancestors_eq (record : store.HasRecord id base fields) :
    ∃ isGeneric, store.ancestors id = id :: aboveRecord base isGeneric := by
  obtain ⟨declared, isGeneric, isDeclared, above, -, -⟩ := record.declared
  refine ⟨isGeneric, ?_⟩
  rw [ancestors, isDeclared]
  exact above

/-- What was put on a record class is found first. -/
theorem find_of_put (record : store.HasRecord id base fields) {value : Value}
    (put : store.classAttribute? id name = some value) :
    store.find id name = some (.value value) := by
  obtain ⟨declared, isGeneric, isDeclared, above, -, -⟩ := record.declared
  have first : store.ownFound? id name = some (.value value) := by
    rw [ownFound?, put]
  rw [find, ancestors, isDeclared]
  simp only [above, List.findSome?_cons, first]

/-- A record class has nothing itself but what was put on it and what its fields make. -/
theorem ownFound?_of_free (record : store.HasRecord id base fields)
    (free : store.classAttribute? id name = none) (unmade : name ∉ recordMembers) :
    store.ownFound? id name = none := by
  have plain : store.fieldMember? id name = none := by
    simp only [recordMembers, List.mem_cons, List.not_mem_nil, or_false, not_or] at unmade
    rw [fieldMember?, record.recordFields?_eq]
    simp [unmade]
  obtain ⟨serial, home, owner, rfl⟩ := record.isRecord
  rw [ownFound?, free, plain, members_record]
  simp [record.present]

/-- The constructor of a record class is the one that its fields make. -/
theorem find_init (record : store.HasRecord id base fields)
    (free : store.classAttribute? id "__init__" = none) :
    store.find id "__init__" = some (.member id "__init__" .other) := by
  obtain ⟨declared, isGeneric, isDeclared, above, -, -⟩ := record.declared
  have made : store.fieldMember? id "__init__" = some (.member id "__init__" .other) := by
    rw [fieldMember?, record.recordFields?_eq]
    rfl
  have first : store.ownFound? id "__init__" = some (.member id "__init__" .other) := by
    rw [ownFound?, free, made]
    simp [record.present]
  rw [find, ancestors, isDeclared]
  simp only [above, List.findSome?_cons, first]

/-- Where nothing was put on a record class, a member of its base is found. -/
theorem find_eq (record : store.HasRecord id base fields) (intact : store.Intact)
    (free : store.classAttribute? id name = none) (unmade : name ∉ recordMembers)
    (kept : isKept base name = true) : store.find id name = ({} : Store).find base name := by
  obtain ⟨isGeneric, above⟩ := record.ancestors_eq
  exact intact.find_above record.isRecord record.isBase above
    (record.ownFound?_of_free free unmade) kept

end HasRecord

theorem isDeclared_of_mem_aboveRecord {isGeneric : Bool} {parent : ClassId}
    (isBase : base = ClassId.command ∨ base = ClassId.entityCommand)
    (isAbove : parent ∈ aboveRecord base isGeneric) : isDeclared parent = true := by
  revert parent
  rcases isBase with rfl | rfl <;> cases isGeneric <;> decide

/-- What stands on a class above a record under a name that is kept by none of them was put there. -/
theorem Intact.ownFound?_above (intact : store.Intact) {isGeneric : Bool} {parent : ClassId}
    (isBase : base = ClassId.command ∨ base = ClassId.entityCommand)
    (loose : isKept base name = false) (isAbove : parent ∈ aboveRecord base isGeneric)
    {found : Found} (isFound : store.ownFound? parent name = some found) :
    ∃ value, found = .value value := by
  have unmade : parent.members.lookup name = none := by
    have notSlots : name ≠ "__slots__" := by
      rintro rfl
      simp [isKept, isSpecial] at loose
    have missing : base.members.lookup name = none := by
      rw [isKept, find_base isBase] at loose
      cases here : base.members.lookup name with
      | none => rfl
      | some member => simp [here] at loose
    simp only [aboveRecord, List.mem_cons, List.mem_append, List.not_mem_nil, or_false] at isAbove
    rcases isAbove with rfl | rfl | isGenericClass | rfl
    · exact missing
    · exact lookup_slots notSlots
    · cases isGeneric with
      | true =>
        obtain rfl : parent = ClassId.generic := by simpa using isGenericClass
        exact lookup_slots notSlots
      | false => simp at isGenericClass
    · rfl
  have isKnown : isDeclared parent = true := isDeclared_of_mem_aboveRecord isBase isAbove
  cases parent with
  | declared home owner =>
    have plain : store.fieldMember? (.declared home owner) name = none := by
      rw [fieldMember?, recordFields?, intact.declared]
      rfl
    rw [ownFound?, plain, unmade] at isFound
    split at isFound
    · exact ⟨_, (Option.some.inj isFound).symm⟩
    · split at isFound <;> simp at isFound
  | _ => simp [isDeclared] at isKnown

/-- The names that every instance has for its class, for its attributes and for being referred to. -/
def instanceNames : List String := ["__class__", "__dict__", "__weakref__"]

theorem leavesToInstance_member {owner : ClassId} {kind : Member} (notClass : name ≠ "__class__")
    (notPart : kind ≠ .property) : leavesToInstance (some (.member owner name kind)) = true := by
  unfold leavesToInstance
  split <;> simp_all

theorem isMethod_of_lookup {member : Member}
    (isBase : base = ClassId.command ∨ base = ClassId.entityCommand)
    (isMember : base.members.lookup name = some member) :
    ∃ parameters, member = .method parameters := by
  rcases isBase with rfl | rfl
  · rw [members_command, List.lookup_cons] at isMember
    split at isMember
    · exact ⟨_, (Option.some.inj isMember).symm⟩
    · simp at isMember
  · rw [members_entityCommand, List.lookup_cons] at isMember
    split at isMember
    · exact ⟨_, (Option.some.inj isMember).symm⟩
    · rw [List.lookup_cons] at isMember
      split at isMember
      · exact ⟨_, (Option.some.inj isMember).symm⟩
      · simp at isMember

theorem leavesToInstance_base (isBase : base = ClassId.command ∨ base = ClassId.entityCommand)
    (free : name ∉ instanceNames) : leavesToInstance (({} : Store).find base name) = true := by
  simp only [instanceNames, List.mem_cons, List.not_mem_nil, or_false, not_or] at free
  rw [find_base isBase]
  cases isMember : base.members.lookup name with
  | some member =>
    obtain ⟨parameters, rfl⟩ := isMethod_of_lookup isBase isMember
    exact leavesToInstance_member free.1 (by simp)
  | none =>
    simp only [free, if_false]
    split
    · rfl
    · split
      · exact leavesToInstance_member free.1 (by simp)
      · rfl

/-- A record keeps an attribute itself under every name that instances have no use of their own
for. -/
theorem HasRecord.leaves (record : store.HasRecord id base fields)
    (intact : store.Intact) (free : name ∉ instanceNames) :
    leavesToInstance (store.find id name) = true := by
  obtain ⟨declared, isGeneric, isDeclared, above, -, -⟩ := record.declared
  have notClass : name ≠ "__class__" := by
    rintro rfl
    simp [instanceNames] at free
  cases isPut : store.classAttribute? id name with
  | some value =>
    rw [record.find_of_put isPut]
    rfl
  | none =>
    by_cases isMade : name ∈ recordMembers
    · have first : ∃ found, store.ownFound? id name = some found ∧
          leavesToInstance (some found) = true := by
        rw [ownFound?, isPut, fieldMember?, record.recordFields?_eq]
        simp only [record.present, List.contains_eq_mem, decide_false, Bool.false_eq_true, if_false,
          Option.bind_some]
        by_cases isHash : name = "__hash__"
        · exact ⟨.value .absent, by simp [isHash], rfl⟩
        · have others : name = "__init__" ∨ name = "__eq__" ∨ name = "__repr__" := by
            simpa [recordMembers, isHash] using isMade
          exact ⟨.member id name .other, by simp [isHash, others],
            leavesToInstance_member notClass (by rintro ⟨⟩)⟩
      obtain ⟨found, isFound, leaves⟩ := first
      rw [find, ancestors, isDeclared]
      simp only [above, List.findSome?_cons, isFound]
      exact leaves
    by_cases kept : isKept base name = true
    · rw [record.find_eq intact isPut isMade kept]
      exact leavesToInstance_base record.isBase free
    · have loose : isKept base name = false := by simpa using kept
      rw [find, ancestors, isDeclared]
      simp only [above, List.findSome?_cons, record.ownFound?_of_free isPut isMade]
      cases isFound : (aboveRecord base isGeneric).findSome? (store.ownFound? · name) with
      | some found =>
        obtain ⟨parent, isAbove, onParent⟩ := List.exists_of_findSome?_eq_some isFound
        obtain ⟨value, rfl⟩ := intact.ownFound?_above record.isBase loose isAbove onParent
        rfl
      | none =>
        have notRoot : name ∉ ClassId.rootMembers := by
          intro isRoot
          rw [isKept, isSpecial_of_mem_rootMembers isRoot, Bool.or_true] at loose
          cases loose
        have notReference : name ≠ "__weakref__" := by
          rintro rfl
          simp [instanceNames] at free
        simp [notReference, notRoot, Action.leavesToInstance]

end Store

end Deferred
