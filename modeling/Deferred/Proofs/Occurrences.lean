import Mathlib.Data.List.Basic

/-!
# First occurrences

Several lists are made by going through another one and keeping what was not met before: the type
parameters of a record among the variables that its routine mentions, the commands of a module among
the values that it has.  What is kept then is each item that occurs, once, in the order of the first
occurrences.
-/

namespace Deferred

variable {α : Type} {items kept : List α} {first second item : α}

/-- An item occurs in a list before another one does. -/
def AppearsBefore (items : List α) (first second : α) : Prop :=
  ∃ before after, items = before ++ first :: after ∧ second ∉ before ++ [first]

namespace AppearsBefore

theorem append (appears : AppearsBefore items first second) (more : List α) :
    AppearsBefore (items ++ more) first second := by
  obtain ⟨before, after, rfl, isLater⟩ := appears
  exact ⟨before, after ++ more, by simp, isLater⟩

theorem of_not_mem (isIn : first ∈ items) (isNew : second ∉ items) :
    AppearsBefore items first second := by
  obtain ⟨before, after, rfl⟩ := List.append_of_mem isIn
  refine ⟨before, after, rfl, fun isEarlier => isNew ?_⟩
  rw [List.append_cons]
  exact List.mem_append_left _ isEarlier

/-- Leaving items out changes nothing for an item that is not left out. -/
theorem of_filter {keep : α → Bool} (isKept : keep second = true)
    (appears : AppearsBefore (items.filter keep) first second) :
    AppearsBefore items first second := by
  obtain ⟨before, after, splits, isLater⟩ := appears
  obtain ⟨head, rest, rfl, rfl, isRest⟩ := List.filter_eq_append_iff.mp splits
  obtain ⟨skipped, last, rfl, leftOut, -, -⟩ := List.filter_eq_cons_iff.mp isRest
  refine ⟨head ++ skipped, last, by simp, fun isEarlier => isLater ?_⟩
  rcases List.mem_append.mp isEarlier with isHere | isFirst
  · rcases List.mem_append.mp isHere with isHead | isSkipped
    · exact List.mem_append_left _ (List.mem_filter.mpr ⟨isHead, isKept⟩)
    · exact absurd isKept (leftOut second isSkipped)
  · exact List.mem_append_right _ isFirst

end AppearsBefore

/-- Of the items of a list each is kept once, in the order of the first occurrences. -/
structure FirstEach (items kept : List α) : Prop where
  once : kept.Nodup
  same : ∀ item, item ∈ kept ↔ item ∈ items
  asMet : kept.Pairwise (AppearsBefore items)

namespace FirstEach

theorem nil : FirstEach ([] : List α) [] := ⟨List.nodup_nil, by simp, .nil⟩

theorem asMet_append (firsts : FirstEach items kept) (more : List α) :
    kept.Pairwise (AppearsBefore (items ++ more)) :=
  firsts.asMet.imp fun appears => appears.append more

/-- An item that was met before is left out. -/
theorem skip (firsts : FirstEach items kept) (isOld : item ∈ kept) :
    FirstEach (items ++ [item]) kept := by
  refine ⟨firsts.once, fun other => ?_, firsts.asMet_append [item]⟩
  rw [List.mem_append, List.mem_singleton, ← firsts.same]
  refine ⟨.inl, fun isThere => isThere.elim id ?_⟩
  rintro rfl
  exact isOld

/-- An item that was not met before is kept behind the others. -/
theorem add (firsts : FirstEach items kept) (isNew : item ∉ kept) :
    FirstEach (items ++ [item]) (kept ++ [item]) := by
  have unmet : item ∉ items := fun isThere => isNew ((firsts.same item).mpr isThere)
  refine ⟨?_, fun other => ?_, ?_⟩
  · refine List.nodup_append.mpr ⟨firsts.once, by simp, ?_⟩
    rintro other isKept last isLast rfl
    exact isNew (List.mem_singleton.mp isLast ▸ isKept)
  · rw [List.mem_append, List.mem_append, firsts.same]
  · refine List.pairwise_append.mpr
      ⟨firsts.asMet_append [item], List.pairwise_singleton .., fun other isKept last isLast => ?_⟩
    obtain rfl := List.mem_singleton.mp isLast
    exact (AppearsBefore.of_not_mem ((firsts.same other).mp isKept) unmet).append [last]

end FirstEach

end Deferred
