import Deferred.CommandLine.Basic
import Deferred.Proofs.Changes
import Deferred.Proofs.Conflicts
import Deferred.Proofs.Occurrences
import Mathlib.Data.List.Sort

/-!
# Collecting the commands of a module

The commands of a module are found by going through the values that it has: what a value has under
the mark of a decoration is looked up, and it counts if it describes what was generated for a
routine of that very module.  Names that stand for one routine lead to one description, which is kept
where it is met first, and sorting by lines leaves commands of one line as they were met.

Looking a mark up can run a function of the value.  Where each look-up comes to an answer and leaves
the module as it is, the collection comes to an end, and what it answers is told by what was attached
to the values alone.
-/

namespace Deferred.CommandLine

open Store Action

variable {store before between after : Store} {machine : Machine} {path : String}
  {home : Option String} {attached seen found collected : List Found} {one : Found}

/-! ## Descriptions are never changed -/

section Descriptions

variable {place other : Ref} {generation : Generation}

/-- No change touches the description of what was generated. -/
theorem object?_apply_of_artifact (change : Change)
    (stands : store.object? place = some (.artifact generation)) :
    (change.apply store).object? place = some (.artifact generation) := by
  cases change with
  | allocate object attributes =>
    have isOld := lt_size_of_object? stands
    simpa [Change.apply, object?, cell?, Array.getElem?_push, Nat.ne_of_lt isOld] using stands
  | setAttribute | removeAttribute =>
    rw [← stands]
    exact object?_modifyCell_of_kept fun _ => rfl
  | setItems | setEntries | setSlots | setOctets | setVariable | setName | setFunction | reset
  | advance | despawn | insert | insertResource | removeResource | push | pop =>
    exact object?_modifyObject_of_fixed stands rfl
  | reserve world =>
    have reserved : (store.modifyWorld world fun content => content.reserve store.nextMark).object?
        place = some (.artifact generation) := object?_modifyObject_of_fixed stands rfl
    exact reserved
  | _ => exact stands

theorem object?_run_of_artifact {α : Type} (action : Action α)
    (stands : store.object? place = some (.artifact generation)) :
    (action.run store).2.object? place = some (.artifact generation) := by
  induction action generalizing store with
  | done => exact stands
  | fail => exact stands
  | read next ih => exact ih store stands
  | write change rest ih => exact ih (object?_apply_of_artifact change stands)

end Descriptions

/-- What was found stands where it was found. -/
def Standing (store : Store) (found : List Found) : Prop :=
  ∀ one ∈ found, store.object? one.1 = some (.artifact one.2)

theorem standing_found? (attached : Option Value) :
    Standing store (found? store attached).toList := by
  intro one isIn
  rw [Option.mem_toList] at isIn
  simp only [found?] at isIn
  split at isIn
  · split at isIn
    · rename_i isArtifact
      obtain rfl := Option.some.inj isIn
      exact isArtifact
    · cases isIn
  · cases isIn

namespace Standing

theorem run {α : Type} (standing : Standing store found) (action : Action α) :
    Standing (action.run store).2 found :=
  fun one isIn => object?_run_of_artifact action (standing one isIn)

theorem append (first : Standing store seen) (second : Standing store found) :
    Standing store (seen ++ found) := fun one isIn =>
  (List.mem_append.mp isIn).elim (first one) (second one)

/-- A place has one description. -/
theorem eq_of_place (standing : Standing store found) {first second : Found}
    (isFirst : first ∈ found) (isSecond : second ∈ found) (same : first.1 = second.1) :
    first = second := by
  have describes := standing first isFirst
  rw [same, standing second isSecond] at describes
  injection describes with describes
  injection describes with describes
  exact Prod.ext same describes.symm

end Standing

/-! ## Each description once -/

/-- Was a description made for a routine of the module with a name? -/
def isOwn (home : Option String) (one : Found) : Bool := home = some one.2.home

theorem keepOwn_eq (home : Option String) (found : List Found) (one : Found) :
    keepOwn home found one =
      if isOwn home one && !(found.map Prod.fst).contains one.1 then found ++ [one] else found :=
  rfl

/-- One more description is kept if it belongs to the module and was not met before. -/
theorem firstEach_keepOwn (firsts : FirstEach (seen.filter (isOwn home)) found)
    (standing : Standing store (seen ++ [one])) :
    FirstEach ((seen ++ [one]).filter (isOwn home)) (keepOwn home found one) := by
  rw [List.filter_append, keepOwn_eq]
  cases own : isOwn home one with
  | false => simpa [own] using firsts
  | true =>
    rw [List.filter_singleton, own]
    cases isMet : (found.map Prod.fst).contains one.1 with
    | false =>
      refine firsts.add fun isKept => Bool.false_ne_true (isMet.symm.trans ?_)
      exact List.contains_iff_mem.mpr (List.mem_map_of_mem isKept)
    | true =>
      -- What stands at the place of this description is this description.
      obtain ⟨other, isKept, atPlace⟩ := List.mem_map.mp (List.contains_iff_mem.mp isMet)
      have isSeen := List.mem_of_mem_filter ((firsts.same other).mp isKept)
      obtain rfl := standing.eq_of_place (List.mem_append_left _ isSeen) (by simp) atPlace
      exact firsts.skip isKept

theorem firstEach_foldl_keepOwn (firsts : FirstEach (seen.filter (isOwn home)) found)
    (standing : Standing store (seen ++ attached)) :
    FirstEach ((seen ++ attached).filter (isOwn home)) (attached.foldl (keepOwn home) found) := by
  induction attached generalizing seen found with
  | nil => rwa [List.append_nil]
  | cons one rest ih =>
    rw [List.append_cons] at standing ⊢
    have first : Standing store (seen ++ [one]) := fun other isIn =>
      standing other (List.mem_append_left _ isIn)
    exact ih (firstEach_keepOwn firsts first) standing

/-! ## The order of the lines -/

/-- Of the descriptions that were met, those that belong to a module are collected: each once, by
lines, and within a line as they were met. -/
structure Collected (home : Option String) (attached collected : List Found) : Prop where
  once : (collected.map Prod.fst).Nodup
  exact : ∀ one, one ∈ collected ↔ one ∈ attached ∧ home = some one.2.home
  byLine : collected.Pairwise fun first second => first.2.line < second.2.line ∨
    first.2.line = second.2.line ∧ AppearsBefore attached first second

/-- One description is of a line that is not behind that of another one. -/
def lineLE (first second : Found) : Bool :=
  decide (first.2.line ≤ second.2.line)

theorem lineLE_trans (first second third : Found) (isFirst : lineLE first second = true)
    (isSecond : lineLE second third = true) : lineLE first third = true := by
  simp only [lineLE, decide_eq_true_eq] at *
  omega

theorem lineLE_total (first second : Found) :
    (lineLE first second || lineLE second first) = true := by
  simp only [lineLE, Bool.or_eq_true, decide_eq_true_eq]
  omega

/-- Sorting by lines keeps the order within a line. -/
theorem pairwise_mergeSort_lineLE {order : Found → Found → Prop} (distinct : found.Nodup)
    (ordered : found.Pairwise order) :
    (found.mergeSort lineLE).Pairwise fun first second => first.2.line < second.2.line ∨
      first.2.line = second.2.line ∧ order first second := by
  -- Sorting is the same with each description under its number, where there are no ties.
  rw [← List.mergeSort_zipIdx, List.pairwise_map]
  have sorted := List.pairwise_mergeSort (List.zipIdxLE_trans lineLE_trans)
    (List.zipIdxLE_total lineLE_total) found.zipIdx
  have apart : (found.zipIdx.mergeSort (List.zipIdxLE lineLE)).Nodup := by
    refine (List.mergeSort_perm _ _).nodup_iff.mpr (.of_map Prod.fst ?_)
    rwa [List.zipIdx_map_fst]
  refine (sorted.and apart).imp_of_mem fun {first second} isFirst isSecond ⟨notAfter, apart⟩ => ?_
  rw [List.mem_mergeSort, List.mem_zipIdx_iff_getElem?] at isFirst isSecond
  rcases lt_trichotomy first.1.2.line second.1.2.line with isLess | sameLine | isGreater
  · exact .inl isLess
  · have number : first.2 ≤ second.2 := by
      simpa [List.zipIdxLE, lineLE, sameLine] using notAfter
    have otherNumber : first.2 ≠ second.2 := fun same => apart (Prod.ext (by
      rw [same, isSecond] at isFirst
      exact (Option.some.inj isFirst).symm) same)
    obtain ⟨firstIn, isFirst⟩ := List.getElem?_eq_some_iff.mp isFirst
    obtain ⟨secondIn, isSecond⟩ := List.getElem?_eq_some_iff.mp isSecond
    have met := List.pairwise_iff_getElem.mp ordered _ _ firstIn secondIn
      (Nat.lt_of_le_of_ne number otherNumber)
    rw [isFirst, isSecond] at met
    exact .inr ⟨sameLine, met⟩
  · simp [List.zipIdxLE, lineLE, Int.not_le.mpr isGreater] at notAfter

theorem collected_mergeSort (firsts : FirstEach (attached.filter (isOwn home)) found)
    (standing : Standing store attached) :
    Collected home attached (found.mergeSort lineLE) := by
  have isPerm := List.mergeSort_perm found lineLE
  have isFound : ∀ one, one ∈ found ↔ one ∈ attached ∧ isOwn home one = true := fun one => by
    rw [firsts.same, List.mem_filter]
  refine ⟨(isPerm.map Prod.fst).nodup_iff.mpr (firsts.once.map_on ?_), fun one => ?_, ?_⟩
  · exact fun first isFirst second isSecond =>
      standing.eq_of_place ((isFound first).mp isFirst).1 ((isFound second).mp isSecond).1
  · rw [isPerm.mem_iff, isFound, isOwn, decide_eq_true_eq]
  · refine pairwise_mergeSort_lineLE firsts.once (firsts.asMet.imp_of_mem ?_)
    exact fun _ isSecond met => met.of_filter ((isFound _).mp isSecond).2

/-! ## Going through the values of a module -/

/-- The names of a module and its own name are as they were. -/
structure SameModule (path : String) (before after : Store) : Prop where
  names : namesIn after path = namesIn before path
  ownName : ownName? after path = ownName? before path

/-- Looking the mark of a decoration up on some values in turn comes to an answer each time and
leaves a module as it is.  The descriptions that were met are listed as they were met. -/
inductive Asked (machine : Machine) (path : String) :
    List Value → List Found → Store → Store → Prop
  | done (store : Store) : Asked machine path [] [] store store
  | next {value : Value} {rest : List Value} {answer : Option Value} {attached : List Found}
      {before between after : Store} :
      (present? machine value artifactAttribute).run before = (.ok answer, between) →
      SameModule path before between → Asked machine path rest attached between after →
      Asked machine path (value :: rest) ((found? between answer).toList ++ attached) before after

theorem run_sameNames {size : Nat} (same : (namesIn store path).length = size) :
    (sameNames path size).run store = (.ok (namesIn store path), store) := by
  rw [sameNames, bind_eq, run_store_bind, if_pos same]
  rfl

namespace Asked

variable {values : List Value}

theorem standing (asked : Asked machine path values attached before after)
    (standing : Standing before seen) : Standing after (seen ++ attached) := by
  induction asked generalizing seen with
  | done => rwa [List.append_nil]
  | @next value _ answer _ before between _ looks _ _ ih =>
    have later : Standing between seen := by
      have runs := standing.run (present? machine value artifactAttribute)
      rwa [looks] at runs
    rw [← List.append_assoc]
    exact ih (later.append (standing_found? answer))

theorem run_gather (asked : Asked machine path values attached before after)
    (left : values = ((namesIn before path).drop
      ((namesIn before path).length - values.length)).map Prod.snd)
    (found : List Found) :
    (gather machine path (namesIn before path).length values.length found).run before =
      (.ok (attached.foldl (keepOwn (ownName? before path)) found), after) := by
  induction asked generalizing found with
  | done store =>
    rw [List.length_nil, gather, bind_eq, run_bind_of_ok (run_sameNames rfl)]
    rfl
  | @next value rest answer attached before between after looks same _ ih =>
    obtain ⟨entry, later, isLeft, rfl, rfl⟩ := List.map_eq_cons_iff.mp left.symm
    rw [List.length_cons, List.length_map] at isLeft
    have isNext : (namesIn before path)[(namesIn before path).length - (later.length + 1)]? =
        some entry := by rw [← List.head?_drop, isLeft, List.head?_cons]
    have behind : later = (namesIn between path).drop
        ((namesIn between path).length - later.length) := by
      have size := congrArg List.length isLeft
      rw [List.length_drop, List.length_cons] at size
      have tail := congrArg List.tail isLeft
      rw [List.tail_drop, List.tail_cons] at tail
      calc later = (namesIn before path).drop
            ((namesIn before path).length - (later.length + 1) + 1) := tail.symm
        _ = _ := by rw [same.names]; congr 1; omega
    have goesOn := ih (by rw [List.length_map, ← behind])
      ((found? between answer).toList.foldl (keepOwn (ownName? between path)) found)
    rw [same.names, same.ownName, List.length_map] at goesOn
    rw [List.length_cons, List.length_map, gather, bind_eq, run_bind_of_ok (run_sameNames rfl),
      isNext, List.foldl_append, ← goesOn]
    simp only [bind_eq]
    rw [run_bind_of_ok looks, run_store_bind, same.ownName]

end Asked

/-! ## Values that no function answers for -/

section Unhooked

variable {value : Value} {values : List Value}

instance (store : Store) (value : Value) : Decidable (store.Unhooked value) :=
  decidable_of_iff
    ((special? store value "__getattribute__").isNone = true ∧
      (special? store value "__getattr__").isNone = true)
    ⟨fun ⟨every, missing⟩ => ⟨Option.isNone_iff_eq_none.mp every, Option.isNone_iff_eq_none.mp missing⟩,
      fun ⟨every, missing⟩ => ⟨Option.isNone_iff_eq_none.mpr every, Option.isNone_iff_eq_none.mpr missing⟩⟩

theorem SameModule.marks (path : String) (store : Store) (marks : Nat) :
    SameModule path store { store with marks } where
  names := rfl
  ownName := by simp only [ownName?, attribute?_marks]; rfl

/-- What stands on a value as its description. -/
def artifactOn? (store : Store) (value : Value) : Option Found :=
  found? store (store.attribute? value artifactAttribute)

theorem artifactOn?_marks (store : Store) (marks : Nat) :
    artifactOn? { store with marks } = artifactOn? store := by
  funext value
  rw [artifactOn?, attribute?_marks]
  rfl

/-- A mark that is looked up without running a function comes to what stands there. -/
theorem exists_run_present?_artifact (machine : Machine) (unhooked : store.Unhooked value) :
    ∃ answer marks, (present? machine value artifactAttribute).run store =
        (.ok answer, { store with marks }) ∧
      found? { store with marks } answer = artifactOn? store value := by
  obtain ⟨answer, marks, looks, isMissing, isThere⟩ :=
    run_present? machine unhooked (lateAttribute?_mark (.inr rfl))
  refine ⟨answer, marks, looks, ?_⟩
  rw [artifactOn?]
  cases answer with
  | none =>
    have absent := isMissing rfl
    cases stands : store.attribute? value artifactAttribute with
    | none => rfl
    | some there =>
      simp only [Store.answers, stands, Option.any_some] at absent
      cases there <;> first | rfl | cases absent
  | some again =>
    obtain ⟨there, stands, -, isAgain⟩ := isThere again rfl
    rw [stands]
    cases isAgain <;> rfl

/-- Where no function answers for the values of a module, what is met is what stands on them. -/
theorem exists_asked (machine : Machine) (path : String)
    (unhooked : ∀ value ∈ values, store.Unhooked value) :
    ∃ marks, Asked machine path values (values.filterMap (artifactOn? store)) store
      { store with marks } := by
  induction values generalizing store with
  | nil => exact ⟨store.marks, .done store⟩
  | cons value rest ih =>
    obtain ⟨answer, marks, looks, isFound⟩ :=
      exists_run_present?_artifact machine (unhooked value List.mem_cons_self)
    have later : ∀ other ∈ rest, Store.Unhooked { store with marks } other := fun other isIn =>
      unhooked_marks marks (unhooked other (List.mem_cons_of_mem _ isIn))
    obtain ⟨last, asked⟩ := ih later
    have next := Asked.next looks (SameModule.marks path store marks) asked
    rw [isFound, artifactOn?_marks store marks] at next
    refine ⟨last, ?_⟩
    cases isHere : artifactOn? store value with
    | none =>
      rw [isHere] at next
      rw [List.filterMap_cons_none isHere]
      exact next
    | some one =>
      rw [isHere] at next
      rw [List.filterMap_cons_some isHere]
      exact next

end Unhooked

/-! ## The commands of a module -/

/-- Where every look-up comes to an answer, the collection comes to an end. -/
theorem run_commandsOf
    (asked : Asked machine path ((namesIn before path).map Prod.snd) attached before after) :
    ∃ collected, (commandsOf machine path).run before = (.ok (collected.map Prod.snd), after) ∧
      Collected (ownName? before path) attached collected := by
  have gathers := asked.run_gather (by simp) []
  have nothing : Standing before [] := fun _ isIn => absurd isIn List.not_mem_nil
  have standing := asked.standing nothing
  have none : FirstEach (([] : List Found).filter (isOwn (ownName? before path))) [] := .nil
  have firsts := firstEach_foldl_keepOwn none standing
  rw [List.length_map] at gathers
  refine ⟨_, ?_, collected_mergeSort firsts standing⟩
  rw [commandsOf, bind_eq, run_store_bind, bind_eq, run_bind_of_ok gathers, List.map_mergeSort]
  · rfl
  · intro _ _ _ _
    rfl

/-! ## What the command line prints -/

section Printing

variable {sources : List ModuleSource} {loaded : Store} {generations : List Generation}
  {verbose : Bool} {words : List String}

theorem answer_of_commandsOf (shown : Store → List Generation → Except String String)
    (loads : (loadModule sources path).run {} = (.ok (), loaded))
    (collects : (commandsOf (Action.machine Scenario.bound) path).run loaded =
      (.ok generations, after)) :
    answer sources verbose path shown =
      match shown after generations with
      | .ok text => { written verbose after with stdout := after.printed ++ text }
      | .error text =>
        { written verbose after with
          exit := 1, stderr := noticeLines verbose after ++ complaint text } := by
  simp only [answer, loads, collects]
  rfl

theorem run_list (loads : (loadModule sources path).run {} = (.ok (), loaded))
    (collects : (commandsOf (Action.machine Scenario.bound) path).run loaded =
      (.ok generations, after))
    (reads : read words = .ok { verbose, request := .list path }) :
    run sources words =
      { written verbose after with stdout := after.printed ++ listing path after generations } := by
  simp only [run, reads, answer_of_commandsOf _ loads collects]

theorem run_expand {name : String} (loads : (loadModule sources path).run {} = (.ok (), loaded))
    (collects : (commandsOf (Action.machine Scenario.bound) path).run loaded =
      (.ok generations, after))
    (reads : read words = .ok { verbose, request := .expand path (some name) }) :
    (run sources words).stdout =
        after.printed ++ String.join ((generations.filter (·.name = name)).map expansion) ∧
      ((run sources words).exit = 0 ↔ generations.filter (·.name = name) ≠ []) := by
  simp only [run, reads, answer_of_commandsOf _ loads collects, expansions]
  cases generations.filter (·.name = name) with
  | nil => simp [written]
  | cons first rest => simp [written]

theorem exit_breakdown (before : Outcome) (fault : Fault) (store : Store) :
    (breakdown before fault store).exit = 1 := by
  rw [breakdown]
  split
  · rfl
  · split <;> rfl

/-- A list of commands that cannot be collected ends with 1. -/
theorem exit_run_list {fault : Fault} (loads : (loadModule sources path).run {} = (.ok (), loaded))
    (fails : (commandsOf (Action.machine Scenario.bound) path).run loaded = (.error fault, after))
    (reads : read words = .ok { verbose, request := .list path }) :
    (run sources words).exit = 1 := by
  simp only [run, reads, answer, loads, fails, exit_breakdown]

/-- Where looking the mark up on the values of a module comes to an answer each time and leaves the
module as it is, the commands of the module are collected: exactly those that are attached to a value
and belong to the module, each once, by lines and within a line as they are met.  The tool lists
them in this order, one line each, and expands those with a name. -/
theorem collects_commands
    (asked : Asked (Action.machine Scenario.bound) path ((namesIn loaded path).map Prod.snd)
      attached loaded after) :
    ∃ collected, (commandsOf (Action.machine Scenario.bound) path).run loaded =
        (.ok (collected.map Prod.snd), after) ∧
      Collected (ownName? loaded path) attached collected ∧
      ∀ sources verbose words, (loadModule sources path).run {} = (.ok (), loaded) →
        (read words = .ok { verbose, request := .list path } →
          (run sources words).exit = 0 ∧
          (run sources words).stdout = after.printed ++
            if collected.isEmpty then lineOf ("No commands found in " ++ path)
            else linesOf (collected.map fun one => summary after one.2)) ∧
        ∀ name, read words = .ok { verbose, request := .expand path (some name) } →
          let named := (collected.map Prod.snd).filter (·.name = name)
          (run sources words).stdout = after.printed ++ String.join (named.map expansion) ∧
            ((run sources words).exit = 0 ↔ named ≠ []) := by
  obtain ⟨collected, collects, isCollected⟩ := run_commandsOf asked
  refine ⟨collected, collects, isCollected, fun sources verbose words loads =>
    ⟨fun reads => ?_, fun name reads => run_expand loads collects reads⟩⟩
  rw [run_list loads collects reads]
  refine ⟨rfl, ?_⟩
  simp only [listing, List.isEmpty_map, List.map_map]
  rfl

end Printing

/-! ## A module, and one that cannot be collected -/

/-- A routine without parameters. -/
def plainRoutine (name : String) (line : Nat) : Scenario.Definition where
  name := name
  kind := .routine .definition
  parameters := []
  returns := none
  doc := none
  body := none
  layout :=
    { file := "shop.py", line, indent := "", continuation := "    ", rows := false
      decorations := [], readable := false }
  home := none
  qualname := none
  typeParameters := []

/-- A step that makes a command of a routine, which is only offered through its record. -/
def defining (definition : Scenario.Definition) : Scenario.Step :=
  .define definition (some
    { forEntity := false
      options := some [("no_trait", .bool true), ("no_world", .bool true)] })

/-- A module with two commands, one of them under two names, and with a routine of another module. -/
def shop : ModuleSource where
  name := "shop"
  steps :=
    [defining (plainRoutine "pay" 20), defining (plainRoutine "sell" 10),
      defining { plainRoutine "lend" 5 with home := some "bank" },
      .script (.setAttribute (.datum (.module "shop")) "settle" (.datum (.function "pay")))]
  raised := none

/-- The store that loading a module leaves. -/
def loadedStore (source : ModuleSource) : Store :=
  (answerOf (loadModule [source] source.name) {}).2

theorem run_loadModule {source : ModuleSource}
    (isLoaded : ((loadModule [source] source.name).run {}).1.isOk = true) :
    (loadModule [source] source.name).run {} = (.ok (), loadedStore source) :=
  run_eq_answerOf isLoaded

/-- What is attached to the values of a module. -/
def attachedIn (store : Store) (path : String) : List Found :=
  ((namesIn store path).map Prod.snd).filterMap (artifactOn? store)

/-- The three commands are met four times, the two of the module are collected and listed, and one of
them is expanded. -/
theorem collects_commands_shop :
    ∃ after, Asked (Action.machine Scenario.bound) "shop"
        ((namesIn (loadedStore shop) "shop").map Prod.snd) (attachedIn (loadedStore shop) "shop")
        (loadedStore shop) after ∧
      (attachedIn (loadedStore shop) "shop").map (fun one => (one.2.name, one.2.home)) =
        [("pay", "shop"), ("sell", "shop"), ("lend", "bank"), ("pay", "shop")] ∧
      ∃ collected, Collected (some "shop") (attachedIn (loadedStore shop) "shop") collected ∧
        (run [shop] ["list", "shop"]).stdout = after.printed ++
          (if collected.isEmpty then lineOf ("No commands found in " ++ "shop")
          else linesOf (collected.map fun one => summary after one.2)) ∧
        (run [shop] ["expand", "shop", "pay"]).stdout = after.printed ++
          String.join (((collected.map Prod.snd).filter (·.name = "pay")).map expansion) := by
  have checked : ((loadModule [shop] shop.name).run {}).1.isOk = true ∧
      (∀ value ∈ (namesIn (loadedStore shop) "shop").map Prod.snd,
        (loadedStore shop).Unhooked value) ∧
      (attachedIn (loadedStore shop) "shop").map (fun one => (one.2.name, one.2.home)) =
        [("pay", "shop"), ("sell", "shop"), ("lend", "bank"), ("pay", "shop")] ∧
      ownName? (loadedStore shop) "shop" = some "shop" := by
    decide +kernel
  obtain ⟨isLoaded, unhooked, attached, isShop⟩ := checked
  obtain ⟨marks, asked⟩ := exists_asked (Action.machine Scenario.bound) "shop" unhooked
  obtain ⟨collected, -, isCollected, prints⟩ := collects_commands asked
  rw [isShop] at isCollected
  have loads := run_loadModule isLoaded
  have lists := (prints [shop] false ["list", "shop"] loads).1 rfl
  have expands := (prints [shop] false ["expand", "shop", "pay"] loads).2 "pay" rfl
  exact ⟨_, asked, attached, collected, isCollected, lists.2, expands.1⟩

/-- A module with one command and a record of it.  The class of the record runs a script for every
attribute that is not there, since it has the default of a parameter under the name that answers for
such attributes. -/
def guardedShop (answering : Script) : ModuleSource where
  name := "shop"
  steps :=
    [.define
      { plainRoutine "refuse" 1 with
        parameters :=
          [{ name := "record", kind := .positional, hint := none, default := none },
            { name := "name", kind := .positional, hint := none, default := none }]
        body := some answering } none,
      defining
        { plainRoutine "pay" 10 with
          parameters :=
            [{ name := "__getattr__", kind := .positional, hint := none
               default := some (.function "refuse") }] },
      .script (.setAttribute (.datum (.module "shop")) "saved"
        (.invoke (.datum (.function "PayCommand")) [] []))]
  raised := none

/-- The kind of exception that ends the collection of a module that can be loaded, and to whose values
one command of its own is attached. -/
def failureIn? (source : ModuleSource) : Option String :=
  match (loadModule [source] source.name).run {} with
  | (.error _, _) => none
  | (.ok (), loaded) =>
    if (attachedIn loaded source.name).map (·.2.home) = [source.name] then
      kindOf? (commandsOf (Action.machine Scenario.bound) source.name) loaded
    else none

theorem exists_of_failureIn? {source : ModuleSource} {kind : String}
    (fails : failureIn? source = some kind) :
    ∃ loaded fault after, (loadModule [source] source.name).run {} = (.ok (), loaded) ∧
      (commandsOf (Action.machine Scenario.bound) source.name).run loaded = (.error fault, after) := by
  rw [failureIn?] at fails
  split at fails
  · cases fails
  · rename_i loaded loads
    split at fails
    · rw [kindOf?] at fails
      split at fails
      · cases fails
      · rename_i fault ends
        exact ⟨loaded, fault, _, loads, Prod.ext ends rfl⟩
    · cases fails

/-- Not every module that can be loaded can be collected: looking the mark up on a value raises, or
it gives the module one more name.  Then nothing is listed. -/
theorem collecting_can_fail :
    (¬ ∀ source loaded, (loadModule [source] source.name).run {} = (.ok (), loaded) →
      ∃ collected after, (commandsOf (Action.machine Scenario.bound) source.name).run loaded =
        (.ok collected, after)) ∧
      failureIn? (guardedShop (.raise "stop")) = some "ScriptError" ∧
      failureIn? (guardedShop (.setAttribute (.datum (.module "shop")) "seen"
        (.datum (.bool true)))) = some "RuntimeError" ∧
      (run [guardedShop (.raise "stop")] ["list", "shop"]).exit = 1 := by
  have raises : failureIn? (guardedShop (.raise "stop")) = some "ScriptError" := by decide +kernel
  have grows : failureIn? (guardedShop (.setAttribute (.datum (.module "shop")) "seen"
      (.datum (.bool true)))) = some "RuntimeError" := by
    decide +kernel
  obtain ⟨loaded, fault, after, loads, ends⟩ := exists_of_failureIn? raises
  refine ⟨fun collects => ?_, raises, grows, exit_run_list loads ends rfl⟩
  obtain ⟨collected, _, collects⟩ := collects _ loaded loads
  rw [ends] at collects
  cases collects

end Deferred.CommandLine
