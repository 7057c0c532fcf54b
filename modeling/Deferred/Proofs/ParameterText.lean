import Deferred.Proofs.FieldOrder
import Deferred.Proofs.Functions
import Deferred.Proofs.NormalNames
import Deferred.Proofs.Printing

/-!
# The text of a declared parameter list

A public routine that is called directly is declared with the parameters of the routine that was
given.  What is written for it is a text with marks, in which a default is a name.  The text is read
back here the way a parameter list is read: it is taken apart at its commas, the marks give the
parameters their kinds, names are put into their normal spelling, and defaults are looked up.  Every
list of parameters that could have been declared comes back as it was.
-/

namespace Deferred

namespace Code

open Text

/-! ## Reading a parameter list -/

/-- A blank between the words of a line. -/
def isBlank (c : Char) : Bool := c = ' ' || c = '\t' || c = '\x0c'

/-- A text without the blanks around it. -/
def trimmed (text : List Char) : List Char :=
  ((text.dropWhile isBlank).reverse.dropWhile isBlank).reverse

/-- The parts of a text between commas; a comma behind the last part opens no other. -/
def commaParts (text : List Char) : List (List Char) :=
  let parts := text.splitOn ','
  if parts.getLast?.any (trimmed · = []) then parts.dropLast else parts

/-- The name that a text is, in its normal spelling. -/
def readName (text : List Char) : Option String :=
  let name := String.ofList (trimmed text)
  if isName name then some (normalName name) else none

/-- The item that a text is.  A default has to be a name. -/
def readItem (text : List Char) : Option ParameterItem :=
  if trimmed text = ['*'] then some .star
  else if trimmed text = ['/'] then some .slash
  else
    match (trimmed text).splitOn '=' with
    | [name] => (readName name).map .required
    | [name, default] => do return .optional (← readName name) (← readName default)
    | _ => none

def readItems (text : String) : Option (List ParameterItem) :=
  (commaParts text.toList).mapM readItem

/-- The items before a mark and, if the mark is there, those behind it. -/
def cutAt (mark : ParameterItem) :
    List ParameterItem → List ParameterItem × Option (List ParameterItem)
  | [] => ([], none)
  | item :: rest =>
    if item = mark then ([], some rest)
    else (item :: (cutAt mark rest).1, (cutAt mark rest).2)

/-- The items of a list with the kinds that the marks give them.  The mark of what is given by
position only needs items before it, the mark of what is given by name only needs some behind it. -/
def withKinds (items : List ParameterItem) : Option (List (ParameterItem × ParameterKind)) :=
  let named := (cutAt .star items).2
  let behind := (named.getD []).map (·, ParameterKind.keywordOnly)
  if named = some [] then none
  else
    match cutAt .slash (cutAt .star items).1 with
    | ([], some _) => none
    | (first, some others) =>
      some (first.map (·, .positionalOnly) ++ others.map (·, .positional) ++ behind)
    | (others, none) => some (others.map (·, .positional) ++ behind)

/-- The parameter that an item declares; a default is what its name is bound to.  A mark declares
none. -/
def parameter? (bindings : Bindings) : ParameterItem × ParameterKind → Option CallParameter
  | (.required name, kind) => some { name, kind, default := none }
  | (.optional name default, kind) =>
    (Entries.get? bindings default).map fun value => { name, kind, default := some value }
  | _ => none

/-- Can parameters be declared together?  No two of them go by one name, none by the name that
nothing can be bound to, and where arguments can be given by position, none without a default stands
behind one with a default. -/
def accepted (parameters : List CallParameter) : Bool :=
  (parameters.map CallParameter.name).Nodup ∧
    (∀ parameter ∈ parameters, parameter.name ≠ Plan.fixedName) ∧
      (parameters.filter (·.kind.isPositional)).Pairwise fun first second =>
        first.default.isNone || second.default.isSome

/-- The parameters that a text declares, if it is a parameter list. -/
def readParameters (bindings : Bindings) (text : String) : Option (List CallParameter) := do
  let items ← readItems text
  let parameters ← (← withKinds items).mapM (parameter? bindings)
  if accepted parameters then some parameters else none

theorem mapM_map_eq_some {α β γ : Type} {read : β → Option γ} {write : α → β} {back : α → γ}
    {values : List α} (reads : ∀ value ∈ values, read (write value) = some (back value)) :
    (values.map write).mapM read = some (values.map back) := by
  induction values with
  | nil => rfl
  | cons value rest ih =>
    rw [List.map_cons, List.mapM_cons, reads value List.mem_cons_self,
      ih fun other isLater => reads other (List.mem_cons_of_mem _ isLater)]
    rfl

/-! ## Names -/

/-- A name as a parameter list can have it: no keyword, and in its normal spelling. -/
structure Legible (name : String) : Prop where
  isName : isName name = true
  isNormal : normalName name = name

theorem Legible.continues {name : String} (legible : Legible name) :
    ∀ c ∈ name.toList, CodePoint.continuesName c = true := by
  have shape := isIdentifier_of_isName legible.isName
  rw [isIdentifier] at shape
  split at shape
  · cases shape
  · rename_i first rest isText
    rw [Bool.and_eq_true] at shape
    rw [isText]
    exact List.forall_mem_cons.mpr
      ⟨CodePoint.continuesName_of_startsName shape.1, List.all_eq_true.mp shape.2⟩

theorem Legible.ne_nil {name : String} (legible : Legible name) : name.toList ≠ [] := by
  intro isEmpty
  have shape := isIdentifier_of_isName legible.isName
  rw [isIdentifier, isEmpty] at shape
  cases shape

/-- The name of a default is legible if the parameter is. -/
theorem Legible.default {name : String} (legible : Legible name) :
    Legible (reserved (Field.defaultName name)) where
  isName := by
    have isOpening : reservedOpening.toList ++ "default_".toList =
        '_' :: "cmdfy_default_".toList := by decide
    have whole : (reserved (Field.defaultName name)).toList =
        '_' :: ("cmdfy_default_".toList ++ name.toList) := by
      rw [reserved, Field.defaultName, String.toList_append, String.toList_append,
        ← List.append_assoc, isOpening, List.cons_append]
    have continues : "cmdfy_default_".toList.all CodePoint.continuesName = true := by decide
    have isNoKeyword : ∀ word ∈ keywords, word.toList.head? ≠ some '_' := by decide
    rw [Text.isName, Bool.and_eq_true, isIdentifier, whole]
    constructor
    · refine Bool.and_eq_true_iff.mpr ⟨rfl, List.all_eq_true.mpr fun c isIn => ?_⟩
      rcases List.mem_append.mp isIn with isFront | isRest
      · exact List.all_eq_true.mp continues c isFront
      · exact legible.continues c isRest
    · rw [Bool.not_eq_true', isKeyword, List.contains_eq_mem, decide_eq_false_iff_not]
      intro isWord
      apply isNoKeyword _ isWord
      rw [whole]
      rfl
  isNormal := by
    rw [reserved, normalName_append (by decide) (by decide), Field.defaultName,
      normalName_append (by decide) (by decide), legible.isNormal]

/-! ## Reading back what is written -/

/-- An item whose names are legible. -/
def ParameterItem.Legible : ParameterItem → Prop
  | required name => Code.Legible name
  | optional name default => Code.Legible name ∧ Code.Legible default
  | star => True
  | slash => True

theorem trimmed_of_tight {text : List Char} (tight : ∀ c ∈ text, isBlank c = false) :
    trimmed text = text := by
  have keeps : ∀ letters : List Char, (∀ c ∈ letters, isBlank c = false) →
      letters.dropWhile isBlank = letters := by
    intro letters isTight
    cases letters with
    | nil => rfl
    | cons first rest =>
      exact List.dropWhile_cons_of_neg (by rw [isTight first List.mem_cons_self]; decide)
  rw [trimmed, keeps text tight, keeps text.reverse fun c isIn => tight c (List.mem_reverse.mp isIn),
    List.reverse_reverse]

/-- The characters of names, of which no mark, comma, equals sign or blank is one. -/
theorem of_continuesName {c : Char} (continues : CodePoint.continuesName c = true) :
    isBlank c = false ∧ c ≠ ',' ∧ c ≠ '=' ∧ c ≠ '*' ∧ c ≠ '/' := by
  have isOther : [' ', '\t', '\x0c', ',', '=', '*', '/'].all (!CodePoint.continuesName ·) = true := by
    decide
  have ne : ∀ other ∈ [' ', '\t', '\x0c', ',', '=', '*', '/'], c ≠ other := by
    rintro other isIn rfl
    have isNone := List.all_eq_true.mp isOther c isIn
    rw [continues] at isNone
    cases isNone
  refine ⟨?_, ne _ (by simp), ne _ (by simp), ne _ (by simp), ne _ (by simp)⟩
  simp [isBlank, ne ' ' (by simp), ne '\t' (by simp), ne '\x0c' (by simp)]

theorem Legible.trimmed {name : String} (legible : Legible name) :
    trimmed name.toList = name.toList :=
  trimmed_of_tight fun c isIn => (of_continuesName (legible.continues c isIn)).1

theorem readName_of_legible {name : String} (legible : Legible name) :
    readName name.toList = some name := by
  rw [readName, legible.trimmed, String.ofList_toList, legible.isName, legible.isNormal]
  rfl

/-- What is written for an item has neither a comma nor a blank, and is something. -/
theorem written_tight {item : ParameterItem} (legible : item.Legible) :
    (∀ c ∈ item.written.toList, isBlank c = false ∧ c ≠ ',') ∧ item.written.toList ≠ [] := by
  have ofName : ∀ {name : String}, Code.Legible name →
      ∀ c ∈ name.toList, isBlank c = false ∧ c ≠ ',' := fun legible c isIn =>
    have isOther := of_continuesName (legible.continues c isIn)
    ⟨isOther.1, isOther.2.1⟩
  cases item with
  | required name => exact ⟨ofName legible, legible.ne_nil⟩
  | optional name default =>
    have whole : (ParameterItem.optional name default).written.toList =
        name.toList ++ '=' :: default.toList := by
      simp [ParameterItem.written, String.toList_append]
    rw [whole]
    refine ⟨fun c isIn => ?_, by simp⟩
    rcases List.mem_append.mp isIn with isFirst | isLater
    · exact ofName legible.1 c isFirst
    · rcases List.mem_cons.mp isLater with rfl | isSecond
      · decide
      · exact ofName legible.2 c isSecond
  | star => exact ⟨List.forall_mem_singleton.mpr (by decide), by decide⟩
  | slash => exact ⟨List.forall_mem_singleton.mpr (by decide), by decide⟩

theorem splitOn_of_notMem {c : Char} {text : List Char} (isOther : c ∉ text) :
    text.splitOn c = [text] := by
  have single : ([c].intercalate [text]).splitOn c = [text] :=
    List.splitOn_intercalate c (by simpa using isOther) (by simp)
  simpa using single

/-- An item is read back from what is written for it. -/
theorem readItem_written {item : ParameterItem} (legible : item.Legible) :
    readItem item.written.toList = some item := by
  have whole : trimmed item.written.toList = item.written.toList :=
    trimmed_of_tight fun c isIn => ((written_tight legible).1 c isIn).1
  have noEquals : ∀ {name : String}, Code.Legible name → '=' ∉ name.toList := fun legible isIn =>
    (of_continuesName (legible.continues _ isIn)).2.2.1 rfl
  rw [readItem, whole]
  cases item with
  | required name =>
    have noMark : ∀ c ∈ ['*', '/'], name.toList ≠ [c] := by
      intro c isMark isText
      have isOther := of_continuesName (legible.continues c (isText ▸ List.mem_singleton_self c))
      simp only [List.mem_cons, List.not_mem_nil, or_false] at isMark
      rcases isMark with rfl | rfl
      · exact isOther.2.2.2.1 rfl
      · exact isOther.2.2.2.2 rfl
    rw [ParameterItem.written, if_neg (noMark _ (by simp)), if_neg (noMark _ (by simp)),
      splitOn_of_notMem (noEquals legible)]
    simp only [readName_of_legible legible]
    rfl
  | optional name default =>
    have isPair : (ParameterItem.optional name default).written.toList =
        ['='].intercalate [name.toList, default.toList] := by
      simp [ParameterItem.written, String.toList_append, List.intercalate_cons_cons]
    have hasEquals : '=' ∈ (ParameterItem.optional name default).written.toList := by
      simp [ParameterItem.written, String.toList_append]
    have noMark : ∀ c ≠ '=', (ParameterItem.optional name default).written.toList ≠ [c] := by
      intro c isOther isText
      rw [isText, List.mem_singleton] at hasEquals
      exact isOther hasEquals.symm
    have parts : (ParameterItem.optional name default).written.toList.splitOn '=' =
        [name.toList, default.toList] := by
      rw [isPair]
      refine List.splitOn_intercalate '=' ?_ (by simp)
      simp [noEquals legible.1, noEquals legible.2]
    rw [if_neg (noMark '*' (by decide)), if_neg (noMark '/' (by decide)), parts]
    simp only [readName_of_legible legible.1, readName_of_legible legible.2]
    rfl
  | star => rfl
  | slash => rfl

/-- A blank in front of a text changes nothing of what is read. -/
theorem readItem_blank (text : List Char) : readItem (' ' :: text) = readItem text := rfl

theorem intercalate_cons_eq (separator first : List Char) (rest : List (List Char)) :
    separator.intercalate (first :: rest) = first ++ rest.flatMap (separator ++ ·) := by
  induction rest generalizing first with
  | nil => simp
  | cons next others ih =>
    rw [List.intercalate_cons_cons, ih, List.flatMap_cons, List.append_assoc, List.append_assoc]

/-- Texts with a comma and a blank between any two are the parts between commas again, each but the
first with its blank. -/
theorem commaParts_intercalate {first : List Char} {rest : List (List Char)}
    (tight : ∀ part ∈ first :: rest, (∀ c ∈ part, isBlank c = false ∧ c ≠ ',') ∧ part ≠ []) :
    commaParts ([',', ' '].intercalate (first :: rest)) = first :: rest.map (' ' :: ·) := by
  have parts : ([',', ' '].intercalate (first :: rest)).splitOn ',' =
      first :: rest.map (' ' :: ·) := by
    have asCommas : [',', ' '].intercalate (first :: rest) =
        [','].intercalate (first :: rest.map (' ' :: ·)) := by
      rw [intercalate_cons_eq, intercalate_cons_eq, List.flatMap_map]
      rfl
    rw [asCommas]
    refine List.splitOn_intercalate ',' ?_ (by simp)
    intro part isIn hasComma
    rcases List.mem_cons.mp isIn with rfl | isLater
    · exact ((tight part List.mem_cons_self).1 _ hasComma).2 rfl
    · obtain ⟨other, isOther, rfl⟩ := List.mem_map.mp isLater
      refine ((tight other (List.mem_cons_of_mem _ isOther)).1 ',' ?_).2 rfl
      simpa using hasComma
  have filled : ∀ part ∈ first :: rest, trimmed part ≠ [] := by
    intro part isIn isEmpty
    rw [trimmed_of_tight fun c isLetter => ((tight part isIn).1 c isLetter).1] at isEmpty
    exact (tight part isIn).2 isEmpty
  have lastFilled : (first :: rest.map (' ' :: ·)).getLast?.any (trimmed · = []) = false := by
    rw [← Bool.not_eq_true, Option.any_eq_true]
    rintro ⟨part, isLast, isEmpty⟩
    rcases List.mem_cons.mp (List.mem_of_getLast? isLast) with rfl | isLater
    · exact filled part List.mem_cons_self (of_decide_eq_true isEmpty)
    · obtain ⟨other, isOther, rfl⟩ := List.mem_map.mp isLater
      exact filled other (List.mem_cons_of_mem _ isOther) (of_decide_eq_true isEmpty)
  rw [commaParts, parts, lastFilled]
  rfl

/-- The items of a parameter list are read back from what is written for it. -/
theorem readItems_written {items : List ParameterItem} (legible : ∀ item ∈ items, item.Legible) :
    readItems (writtenParameters items) = some items := by
  cases items with
  | nil => decide
  | cons first rest =>
    have isText : (writtenParameters (first :: rest)).toList =
        [',', ' '].intercalate (first.written.toList :: rest.map (·.written.toList)) := by
      rw [writtenParameters, commaSeparated, String.toList_intercalate, List.map_map]
      rfl
    have tight : ∀ part ∈ first.written.toList :: rest.map (·.written.toList),
        (∀ c ∈ part, isBlank c = false ∧ c ≠ ',') ∧ part ≠ [] := by
      intro part isPart
      obtain ⟨item, isItem, rfl⟩ : ∃ item ∈ first :: rest, item.written.toList = part := by
        simpa [eq_comm] using isPart
      exact written_tight (legible item isItem)
    have others : (rest.map fun item => ' ' :: item.written.toList).mapM readItem =
        some (rest.map id) := by
      refine mapM_map_eq_some fun item isLater => ?_
      rw [readItem_blank]
      exact readItem_written (legible item (List.mem_cons_of_mem _ isLater))
    rw [List.map_id] at others
    rw [readItems, isText, commaParts_intercalate tight, List.mapM_cons,
      readItem_written (legible first List.mem_cons_self), List.map_map]
    exact congrArg (fun others => others.bind fun others => some (first :: others)) others

/-! ## The marks of a declared parameter list -/

theorem cutAt_of_notMem {mark : ParameterItem} {items : List ParameterItem}
    (isOther : mark ∉ items) : cutAt mark items = (items, none) := by
  induction items with
  | nil => rfl
  | cons item rest ih =>
    rw [List.mem_cons, not_or] at isOther
    rw [cutAt, if_neg (Ne.symm isOther.1), ih isOther.2]

theorem cutAt_append {mark : ParameterItem} {front : List ParameterItem}
    (isOther : mark ∉ front) (behind : List ParameterItem) :
    cutAt mark (front ++ mark :: behind) = (front, some behind) := by
  induction front with
  | nil => exact if_pos rfl
  | cons item rest ih =>
    rw [List.mem_cons, not_or] at isOther
    rw [List.cons_append, cutAt, if_neg (Ne.symm isOther.1), ih isOther.2]

theorem declaredItem_ne_star (parameter : Parameter) : Plan.declaredItem parameter ≠ .star := by
  intro isMark
  rw [Plan.declaredItem] at isMark
  split at isMark <;> cases isMark

/-- The parameters of a list that can be written, by what their arguments are given by. -/
theorem Writable.sections {parameters : List Parameter} (writable : Writable parameters) :
    ∃ first others named, parameters = first ++ (others ++ named) ∧
      (∀ parameter ∈ first, parameter.kind = .positionalOnly) ∧
      (∀ parameter ∈ others, parameter.kind = .positional) ∧
      ∀ parameter ∈ named, parameter.kind = .keywordOnly := by
  induction parameters with
  | nil => exact ⟨[], [], [], rfl, by simp, by simp, by simp⟩
  | cons parameter rest ih =>
    obtain ⟨first, others, named, rfl, isFirst, isOther, isNamed⟩ := ih writable.tail
    have counted := writable.counted parameter List.mem_cons_self
    have noFirst : kindRank .positionalOnly < kindRank parameter.kind → first = [] := by
      intro isLate
      refine List.eq_nil_iff_forall_not_mem.mpr fun other isIn => ?_
      exact writable.kind_of_mem (List.mem_append_left _ isIn) (isFirst other isIn ▸ isLate)
    have noOther : kindRank .positional < kindRank parameter.kind → others = [] := by
      intro isLate
      refine List.eq_nil_iff_forall_not_mem.mpr fun other isIn => ?_
      exact writable.kind_of_mem (List.mem_append_right _ (List.mem_append_left _ isIn))
        (isOther other isIn ▸ isLate)
    cases kind : parameter.kind with
    | positionalOnly =>
      exact ⟨parameter :: first, others, named, rfl,
        List.forall_mem_cons.mpr ⟨kind, isFirst⟩, isOther, isNamed⟩
    | positional =>
      rw [noFirst (by rw [kind]; decide)]
      exact ⟨[], parameter :: others, named, rfl, by simp,
        List.forall_mem_cons.mpr ⟨kind, isOther⟩, isNamed⟩
    | keywordOnly =>
      rw [noFirst (by rw [kind]; decide), noOther (by rw [kind]; decide)]
      exact ⟨[], [], parameter :: named, rfl, by simp, by simp,
        List.forall_mem_cons.mpr ⟨kind, isNamed⟩⟩
    | variadic => simp [kind, ParameterKind.isVariadic] at counted
    | keywordVariadic => simp [kind, ParameterKind.isVariadic] at counted

section Sections

variable {first others named : List Parameter}

theorem declaredItems_starred (isNamed : ∀ parameter ∈ named, parameter.kind = .keywordOnly) :
    Plan.declaredItems true named = named.map Plan.declaredItem := by
  induction named with
  | nil => rfl
  | cons parameter rest ih =>
    have kind := isNamed parameter List.mem_cons_self
    have later := ih fun other isLater => isNamed other (List.mem_cons_of_mem _ isLater)
    simp [Plan.declaredItems, Parameter.isKeywordOnly, Parameter.isPositionalOnly, kind, later]

/-- The mark of what is given by name only stands before the first such parameter. -/
theorem declaredItems_named {parameter : Parameter}
    (isNamed : ∀ other ∈ parameter :: named, other.kind = .keywordOnly) :
    Plan.declaredItems false (parameter :: named) =
      .star :: (parameter :: named).map Plan.declaredItem := by
  have kind := isNamed parameter List.mem_cons_self
  have later := declaredItems_starred fun other isLater =>
    isNamed other (List.mem_cons_of_mem parameter isLater)
  simp [Plan.declaredItems, Parameter.isKeywordOnly, Parameter.isPositionalOnly, kind, later]

theorem declaredItems_others (isOther : ∀ parameter ∈ others, parameter.kind = .positional)
    (named : List Parameter) : Plan.declaredItems false (others ++ named) =
      others.map Plan.declaredItem ++ Plan.declaredItems false named := by
  induction others with
  | nil => rfl
  | cons parameter rest ih =>
    have kind := isOther parameter List.mem_cons_self
    have later := ih fun other isLater => isOther other (List.mem_cons_of_mem _ isLater)
    simp [Plan.declaredItems, Parameter.isKeywordOnly, Parameter.isPositionalOnly, kind, later]

/-- The mark of what is given by position only stands behind the last such parameter. -/
theorem declaredItems_first {parameter : Parameter} {rest : List Parameter}
    (isFirst : ∀ other ∈ parameter :: first, other.kind = .positionalOnly)
    (isOther : ∀ other ∈ rest, other.kind ≠ .positionalOnly) :
    Plan.declaredItems false (parameter :: first ++ rest) =
      (parameter :: first).map Plan.declaredItem ++ .slash :: Plan.declaredItems false rest := by
  induction first generalizing parameter with
  | nil =>
    have kind := isFirst parameter List.mem_cons_self
    have closes : rest.head?.any Parameter.isPositionalOnly = false := by
      cases rest with
      | nil => rfl
      | cons next _ => simpa [Parameter.isPositionalOnly] using isOther next List.mem_cons_self
    simp [Plan.declaredItems, Parameter.isKeywordOnly, Parameter.isPositionalOnly, kind,
      closes]
  | cons next remaining ih =>
    have kind := isFirst parameter List.mem_cons_self
    have nextKind := isFirst next (by simp)
    have later := ih fun other isLater => isFirst other (List.mem_cons_of_mem _ isLater)
    rw [List.cons_append, Plan.declaredItems]
    simpa [Parameter.isKeywordOnly, Parameter.isPositionalOnly, kind, nextKind] using later

end Sections

theorem map_withKind {parameters : List Parameter} {kind : ParameterKind}
    (isKind : ∀ parameter ∈ parameters, parameter.kind = kind) :
    (parameters.map Plan.declaredItem).map (·, kind) =
      parameters.map fun parameter => (Plan.declaredItem parameter, parameter.kind) := by
  rw [List.map_map]
  exact List.map_congr_left fun parameter isIn => by rw [← isKind parameter isIn]; rfl

/-- The marks of a declared parameter list give every parameter the kind that it has. -/
theorem withKinds_declaredItems {parameters : List Parameter} (writable : Writable parameters) :
    withKinds (Plan.declaredItems false parameters) =
      some (parameters.map fun parameter => (Plan.declaredItem parameter, parameter.kind)) := by
  obtain ⟨first, others, named, rfl, isFirst, isOther, isNamed⟩ := writable.sections
  have noStar : ∀ parameters : List Parameter, .star ∉ parameters.map Plan.declaredItem := by
    simp [declaredItem_ne_star]
  have noSlash : ∀ parameters : List Parameter, .slash ∉ parameters.map Plan.declaredItem := by
    simp [declaredItem_ne_slash]
  -- What is before the mark of what is given by name only.
  have front : ∃ items, .star ∉ items ∧
      Plan.declaredItems false (first ++ (others ++ named)) =
        items ++ Plan.declaredItems false named ∧
      cutAt .slash items = if first.isEmpty then (others.map Plan.declaredItem, none)
        else (first.map Plan.declaredItem, some (others.map Plan.declaredItem)) := by
    cases first with
    | nil =>
      exact ⟨others.map Plan.declaredItem, noStar others, declaredItems_others isOther named,
        cutAt_of_notMem (noSlash others)⟩
    | cons parameter rest =>
      have isBehind : ∀ other ∈ others ++ named, other.kind ≠ .positionalOnly := by
        intro other isIn
        rcases List.mem_append.mp isIn with isIn | isIn
        · simp [isOther other isIn]
        · simp [isNamed other isIn]
      refine ⟨(parameter :: rest).map Plan.declaredItem ++ .slash :: others.map Plan.declaredItem,
        ?_, ?_, cutAt_append (noSlash _) _⟩
      · have apart : ParameterItem.star ≠ .slash := ParameterItem.noConfusion
        exact List.not_mem_append (noStar _) (List.not_mem_cons_of_ne_of_not_mem apart (noStar others))
      · rw [declaredItems_first isFirst isBehind, declaredItems_others isOther, List.append_assoc,
          List.cons_append]
  obtain ⟨items, itemsNoStar, whole, cut⟩ := front
  have behind : cutAt .star (items ++ Plan.declaredItems false named) =
      (items, if named.isEmpty then none else some (named.map Plan.declaredItem)) := by
    cases named with
    | nil => simpa [Plan.declaredItems] using cutAt_of_notMem itemsNoStar
    | cons parameter rest =>
      rw [declaredItems_named isNamed]
      exact cutAt_append itemsNoStar _
  rw [whole, withKinds, behind, List.map_append, List.map_append, ← map_withKind isFirst,
    ← map_withKind isOther, ← map_withKind isNamed]
  simp only [cut]
  cases first <;> cases named <;> simp

/-! ## The defaults -/

section Defaults

variable {uses : List Use}

/-- Things under different names are all bound where each of the names is free or stands for the
thing already. -/
theorem exists_bindAll_of_free (apart : (uses.map Prod.fst).Nodup) {emitter : Emitter Value}
    (free : ∀ use ∈ uses, ∀ other,
      Entries.get? emitter.bindings (reserved use.1) = some other → other = use.2) :
    ∃ bound, emitter.bindAll uses = .ok bound ∧
      (∀ use ∈ uses, Entries.get? bound.bindings (reserved use.1) = some use.2) ∧
      ∀ name, (∀ use ∈ uses, name ≠ reserved use.1) →
        Entries.get? bound.bindings name = Entries.get? emitter.bindings name := by
  induction uses generalizing emitter with
  | nil => exact ⟨emitter, rfl, by simp, fun _ _ => rfl⟩
  | cons use rest ih =>
    rw [List.map_cons, List.nodup_cons] at apart
    have isOther : ∀ other ∈ rest, reserved other.1 ≠ reserved use.1 := by
      intro other isLater same
      exact apart.1 (reserved_inj.mp same ▸ List.mem_map_of_mem isLater)
    obtain ⟨bindings, binding, isBound, kept⟩ :=
      exists_bindAs_of_free (free use List.mem_cons_self)
    have freeRest : ∀ other ∈ rest, ∀ value,
        Entries.get? ({ emitter with bindings } : Emitter Value).bindings (reserved other.1) =
          some value → value = other.2 := fun other isLater value isThere =>
      free other (List.mem_cons_of_mem _ isLater) value (kept _ (isOther other isLater) ▸ isThere)
    obtain ⟨bound, binds, areBound, keptToo⟩ := ih apart.2 freeRest
    refine ⟨bound, ?_, ?_, ?_⟩
    · simp only [Emitter.bindAll, Emitter.bind, binding, bind, Except.bind, pure, Except.pure]
      exact binds
    · refine List.forall_mem_cons.mpr ⟨?_, areBound⟩
      rw [keptToo _ fun other isLater => (isOther other isLater).symm]
      exact isBound
    · intro name isFree
      rw [keptToo name fun other isLater => isFree other (List.mem_cons_of_mem _ isLater)]
      exact kept name (isFree use List.mem_cons_self)

theorem nodup_declaredUses {parameters : List Parameter}
    (distinct : (parameters.map Parameter.name).Nodup) :
    ((Plan.declaredUses parameters).map Prod.fst).Nodup := by
  have isSublist : ((Plan.declaredUses parameters).map Prod.fst).Sublist
      ((parameters.map Parameter.name).map Field.defaultName) := by
    induction parameters with
    | nil => exact List.Sublist.slnil
    | cons parameter rest ih =>
      have later := ih (List.nodup_cons.mp distinct).2
      cases hasDefault : parameter.default with
      | none =>
        simpa [Plan.declaredUses, hasDefault] using later.cons (Field.defaultName parameter.name)
      | some value => simpa [Plan.declaredUses, hasDefault] using later.cons_cons (Field.defaultName parameter.name)
  refine isSublist.nodup (distinct.map fun name other same => ?_)
  simpa [Field.defaultName] using same

end Defaults

/-! ## Declared parameter lists -/

/-- Parameters that a routine can be declared with, none of which takes any number of arguments. -/
structure Declared (parameters : List Parameter) : Prop
    extends Writable parameters, Declarable parameters where
  legible : ∀ parameter ∈ parameters, Legible parameter.name
  bindable : ∀ parameter ∈ parameters, parameter.name ≠ Plan.fixedName

variable {parameters : List Parameter}

theorem legible_declaredItem {parameter : Parameter} (legible : Legible parameter.name) :
    (Plan.declaredItem parameter).Legible := by
  rw [Plan.declaredItem]
  split
  · exact ⟨legible, legible.default⟩
  · exact legible

theorem legible_declaredItems {starred : Bool}
    (legible : ∀ parameter ∈ parameters, Legible parameter.name) :
    ∀ item ∈ Plan.declaredItems starred parameters, item.Legible := by
  induction parameters generalizing starred with
  | nil => simp [Plan.declaredItems]
  | cons parameter rest ih =>
    intro item isItem
    simp only [Plan.declaredItems, List.mem_append, List.mem_cons] at isItem
    rcases isItem with (isMark | rfl | isMark) | isLater
    · split at isMark
      · exact List.mem_singleton.mp isMark ▸ trivial
      · cases isMark
    · exact legible_declaredItem (legible parameter List.mem_cons_self)
    · split at isMark
      · exact List.mem_singleton.mp isMark ▸ trivial
      · cases isMark
    · exact ih (fun other isIn => legible other (List.mem_cons_of_mem _ isIn)) item isLater

theorem accepted_declared (declared : Declared parameters) :
    accepted (parameters.map declaredParameter) = true := by
  refine decide_eq_true ⟨?_, ?_, ?_⟩
  · rw [List.map_map]
    exact declared.distinct
  · intro parameter isIn
    obtain ⟨given, isGiven, rfl⟩ := List.mem_map.mp isIn
    exact declared.bindable given isGiven
  · rw [List.filter_map, List.pairwise_map]
    refine List.Pairwise.imp ?_ declared.defaultsLast
    intro first second follows
    cases hasDefault : first.default with
    | none => simp [declaredParameter, hasDefault]
    | some value => simpa [declaredParameter, hasDefault] using follows

/-- Where the defaults are bound, what is written for parameters declares these parameters. -/
theorem readParameters_of_bound (declared : Declared parameters) {bindings : Bindings}
    (isBound : ∀ use ∈ Plan.declaredUses parameters,
      Entries.get? bindings (reserved use.1) = some use.2) :
    readParameters bindings (writtenParameters (Plan.declaredItems false parameters)) =
      some (parameters.map declaredParameter) := by
  have ofItems : (parameters.map fun parameter =>
      (Plan.declaredItem parameter, parameter.kind)).mapM (parameter? bindings) =
        some (parameters.map declaredParameter) := by
    refine mapM_map_eq_some fun parameter isIn => ?_
    rw [Plan.declaredItem]
    cases hasDefault : parameter.default with
    | none => simp [parameter?, declaredParameter, hasDefault]
    | some value =>
      have isUse : (Field.defaultName parameter.name, value) ∈ Plan.declaredUses parameters :=
        List.mem_filterMap.mpr ⟨parameter, isIn, by rw [hasDefault]; rfl⟩
      simp [parameter?, declaredParameter, hasDefault, isBound _ isUse]
  rw [readParameters, readItems_written (legible_declaredItems declared.legible)]
  simp only [bind, Option.bind, withKinds_declaredItems declared.toWritable, ofItems,
    accepted_declared declared, if_true]

/-- **A declared parameter list is read back as it was declared.**  Whatever parameters a routine
can be declared with, their defaults are bound in an emitter that uses none of their names for
something else, and the text that is written for them is a parameter list that declares the same
parameters in the same order, each with its name, its kind and its default. -/
theorem readParameters_written (declared : Declared parameters) {emitter : Emitter Value}
    (free : ∀ use ∈ Plan.declaredUses parameters, ∀ other,
      Entries.get? emitter.bindings (reserved use.1) = some other → other = use.2) :
    ∃ bound, emitter.bindAll (Plan.declaredUses parameters) = .ok bound ∧
      readParameters bound.bindings (writtenParameters (Plan.declaredItems false parameters)) =
        some (parameters.map declaredParameter) := by
  obtain ⟨bound, binds, isBound, -⟩ :=
    exists_bindAll_of_free (nodup_declaredUses declared.distinct) free
  exact ⟨bound, binds, readParameters_of_bound declared isBound⟩

/-- Parameters of every kind, two of them with a default. -/
def mixedParameters : List Parameter :=
  [ { name := "target", hint := none, kind := .positionalOnly, default := none, pattern := none },
    { name := "amount", hint := none, kind := .positional, default := some (.text "one" 0),
      pattern := none },
    { name := "quiet", hint := none, kind := .keywordOnly, default := some .absent,
      pattern := none },
    { name := "reason", hint := none, kind := .keywordOnly, default := none, pattern := none } ]

theorem declared_mixedParameters : Declared mixedParameters where
  ordered := by decide
  counted := by decide
  distinct := by decide
  defaultsLast := by decide
  legible := by
    have plain : ∀ parameter ∈ mixedParameters, isName parameter.name = true ∧
        parameter.name.toList.all (fun c => decide (c.toNat < 128)) = true := by decide
    exact fun parameter isIn =>
      ⟨(plain parameter isIn).1, normalName_of_ascii (plain parameter isIn).2⟩
  bindable := by decide

theorem readParameters_written_mixed : ∃ bound,
    ({ bindings := [("_cmdfy_ok", .absent)] } : Emitter Value).bindAll
      (Plan.declaredUses mixedParameters) = .ok bound ∧
    readParameters bound.bindings
      (writtenParameters (Plan.declaredItems false mixedParameters)) =
        some (mixedParameters.map declaredParameter) := by
  refine readParameters_written declared_mixedParameters ?_
  intro use isUse other isThere
  have isFree : ∀ use ∈ Plan.declaredUses mixedParameters, reserved use.1 ≠ "_cmdfy_ok" := by
    decide
  rw [Entries.get?, Entries.get?] at isThere
  split at isThere
  · rename_i same
    exact absurd (eq_of_beq same).symm (isFree use isUse)
  · cases isThere

example : writtenParameters (Plan.declaredItems false mixedParameters) =
    "target, /, amount=_cmdfy_default_amount, *, quiet=_cmdfy_default_quiet, reason" := by
  decide

end Code

namespace Plan

/-- **The public routine keeps the declared parameters.**  Where a routed command is called
directly, the text of its routing declares the public routine with the parameters of the routine
that was given. -/
theorem readParameters_routine {plan : Plan} (accepted : plan.Accepted)
    (declared : Code.Declared plan.signature.parameters) (isRouted : plan.isRouted = true)
    (direct : plan.mode = .exclusive) :
    ∃ fragment, plan.routingFragment = .ok (some fragment) ∧
      Code.readParameters fragment.bindings (Code.writtenParameters plan.routineParameters) =
        some (plan.signature.parameters.map Code.declaredParameter) := by
  have agree := agree_uses accepted declared.distinct
  have within : ∀ use ∈ plan.routingUses, use ∈ plan.uses := by
    intro use isUse
    simp [uses, isRouted, isUse]
  obtain ⟨fragment, made⟩ := Code.exists_fragmentOf agree within "routing" plan.routingCode
  refine ⟨fragment, by rw [routingFragment, if_pos isRouted, made]; rfl, ?_⟩
  rw [routineParameters, direct]
  refine Code.readParameters_of_bound declared fun use isUse => ?_
  refine (Code.fragmentOf_eq_ok agree within made).2 use ?_
  rw [routingUses, direct]
  exact List.mem_append_right _ (List.mem_append_left _ isUse)

end Plan

end Deferred
