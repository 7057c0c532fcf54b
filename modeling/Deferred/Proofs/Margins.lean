import Deferred.Text.Margin
import Mathlib.Data.List.Infix
import Mathlib.Data.List.TakeWhile

/-!
# What a margin takes away

Every line that something is left of lost the same characters, and it lost all the white space that
opened it when none is left.
-/

namespace Deferred.Text

variable {line first second : List Char} {lines : List (List Char)} {c : Char}

/-! ## The margin opens every line -/

theorem commonPrefix_prefix_left (first second : List Char) :
    commonPrefix first second <+: first := by
  induction first generalizing second with
  | nil => exact List.nil_prefix
  | cons c rest ih =>
    cases second with
    | nil => exact List.nil_prefix
    | cons other others =>
      rw [commonPrefix]
      split
      · exact (List.prefix_cons_inj c).mpr (ih others)
      · exact List.nil_prefix

theorem commonPrefix_prefix_right (first second : List Char) :
    commonPrefix first second <+: second := by
  induction first generalizing second with
  | nil => exact List.nil_prefix
  | cons c rest ih =>
    cases second with
    | nil => exact List.nil_prefix
    | cons other others =>
      rw [commonPrefix]
      split
      · rename_i same
        subst same
        exact (List.prefix_cons_inj c).mpr (ih others)
      · exact List.nil_prefix

theorem foldl_commonPrefix_prefix {found : List (List Char)} :
    ∀ member ∈ first :: found, found.foldl commonPrefix first <+: member := by
  induction found generalizing first with
  | nil =>
    intro member isIn
    obtain rfl := List.mem_singleton.mp isIn
    exact List.prefix_rfl
  | cons next found ih =>
    intro member isIn
    have opens := @ih (commonPrefix first next)
    rw [List.foldl_cons]
    rcases List.mem_cons.mp isIn with rfl | isLater
    · exact (opens _ List.mem_cons_self).trans (commonPrefix_prefix_left _ _)
    · rcases List.mem_cons.mp isLater with rfl | isLater
      · exact (opens _ List.mem_cons_self).trans (commonPrefix_prefix_right _ _)
      · exact opens member (List.mem_cons_of_mem _ isLater)

theorem commonIndent_prefix (isIn : line ∈ lines) (something : line ≠ []) :
    commonIndent lines <+: line.takeWhile indents := by
  have isOne : line.takeWhile indents ∈
      (lines.filter fun line => !line.isEmpty).map (List.takeWhile indents) :=
    List.mem_map.mpr ⟨line, List.mem_filter.mpr ⟨isIn, by simpa using something⟩, rfl⟩
  rw [commonIndent]
  split
  · exact List.nil_prefix
  · rename_i first rest isList
    exact foldl_commonPrefix_prefix _ (isList ▸ isOne)

theorem cleared_eq (something : cleared line ≠ []) : cleared line = line := by
  rw [cleared] at something ⊢
  split at something
  · exact absurd rfl something
  · rename_i notBlank
    exact if_neg notBlank

/-- The margin opens every line that is not cleared. -/
theorem marginOf_prefix (isIn : line ∈ lines) (something : cleared line ≠ []) :
    marginOf lines <+: line.takeWhile indents := by
  have opens := commonIndent_prefix (List.mem_map.mpr ⟨line, isIn, rfl⟩) something
  rwa [cleared_eq something] at opens

theorem blank_of_indents (isIndent : indents c = true) : CodePoint.blank c = true := by
  rw [indents, Bool.or_eq_true, decide_eq_true_eq, decide_eq_true_eq] at isIndent
  rcases isIndent with rfl | rfl <;> decide

/-! ## Lines without their margin -/

/-- A line that is not cleared is the margin and what is left of it. -/
theorem getElem?_dedent {number : Nat} (isLine : lines[number]? = some line)
    (something : cleared line ≠ []) : ∃ left, (dedent lines)[number]? = some left ∧
      marginOf lines <+: line.takeWhile indents ∧ line = marginOf lines ++ left := by
  have opens := marginOf_prefix (List.mem_of_getElem? isLine) something
  obtain ⟨left, isWhole⟩ := opens.trans (List.takeWhile_prefix _)
  refine ⟨left, ?_, opens, isWhole.symm⟩
  have isPrefix : (marginOf lines).isPrefixOf line = true :=
    List.isPrefixOf_iff_prefix.mpr ⟨left, isWhole⟩
  have drops : line.drop (marginOf lines).length = left := by
    rw [← isWhole, List.drop_left]
  simp only [dedent, List.getElem?_map, isLine, Option.map_some, cleared_eq something, isPrefix,
    if_true, drops]

/-- A line that something is left of is the margin and what is left. -/
theorem eq_of_dedent {number : Nat} {left : List Char}
    (isLeft : (dedent lines)[number]? = some left) (something : left ≠ []) : ∃ line, lines[number]? = some line ∧
      marginOf lines <+: line.takeWhile indents ∧ line = marginOf lines ++ left := by
  have isMapped := isLeft
  rw [dedent, List.getElem?_map] at isMapped
  obtain ⟨line, isLine, isRest⟩ := Option.map_eq_some_iff.mp isMapped
  have notCleared : cleared line ≠ [] := by
    intro isCleared
    rw [← isRest] at something
    simp [isCleared] at something
  obtain ⟨rest, isFound, opens, isWhole⟩ := getElem?_dedent isLine notCleared
  rw [isLeft] at isFound
  cases isFound
  exact ⟨line, isLine, opens, isWhole⟩

/-- Something is left of a line that has more than white space on it. -/
theorem dedent_ne_nil {number : Nat} (isLine : lines[number]? = some line) (isIn : c ∈ line)
    (visible : CodePoint.blank c = false) :
    ∃ left, (dedent lines)[number]? = some left ∧ left ≠ [] := by
  have notIndent : ¬ indents c = true := fun isIndent => by
    rw [blank_of_indents isIndent] at visible
    cases visible
  have whole : cleared line = line :=
    if_neg fun all => notIndent (List.all_eq_true.mp all c isIn)
  obtain ⟨left, isLeft, opens, isWhole⟩ :=
    getElem?_dedent isLine (whole.symm ▸ List.ne_nil_of_mem isIn)
  refine ⟨left, isLeft, ?_⟩
  rintro rfl
  rw [List.append_nil] at isWhole
  exact notIndent (List.mem_takeWhile_imp (opens.subset (isWhole ▸ isIn)))

theorem blank_of_mem_marginOf {number : Nat} {left : List Char}
    (isLeft : (dedent lines)[number]? = some left) (something : left ≠ [])
    (isIn : c ∈ marginOf lines) : CodePoint.blank c = true := by
  obtain ⟨line, -, opens, -⟩ := eq_of_dedent isLeft something
  exact blank_of_indents (List.mem_takeWhile_imp (opens.subset isIn))

/-- Where what is left of a line does not open with white space, the margin is all the white space
that opened it. -/
theorem indentWidth_of_dedent {number : Nat} {left : List Char}
    (isLeft : (dedent lines)[number]? = some left) (something : left ≠ [])
    (flush : left.head?.any CodePoint.blank = false) :
    ∃ line, lines[number]? = some line ∧ indentWidth line = (marginOf lines).length := by
  obtain ⟨line, isLine, -, isWhole⟩ := eq_of_dedent isLeft something
  refine ⟨line, isLine, ?_⟩
  have blanks : ∀ c ∈ marginOf lines, CodePoint.blank c = true := fun c =>
    blank_of_mem_marginOf isLeft something
  obtain ⟨c, rest, rfl⟩ := List.exists_cons_of_ne_nil something
  have stops : CodePoint.blank c = false := flush
  rw [indentWidth, isWhole, List.takeWhile_append_of_pos blanks, List.takeWhile_cons, stops]
  simp

end Deferred.Text
