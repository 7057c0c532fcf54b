import Deferred.Data.Entries
import Mathlib.Data.List.Nodup

/-!
# Laws of ordered entries

What looking up, writing and removing entries comes to, and which of these keep every key single.
-/

namespace Deferred.Entries

variable {κ ν : Type} [BEq κ] [LawfulBEq κ] {entries more : List (κ × ν)} {key : κ} {value : ν}

/-! ## Looking up -/

theorem get?_eq_none_iff : get? entries key = none ↔ key ∉ keys entries := by
  induction entries with
  | nil => simp [get?, keys]
  | cons entry rest ih =>
    obtain ⟨other, content⟩ := entry
    by_cases same : other = key
    · simp [get?, keys, same]
    · simpa [get?, keys, same, Ne.symm same] using ih

theorem has_eq_false_iff : has entries key = false ↔ key ∉ keys entries := by
  rw [has, Option.isSome_eq_false_iff, Option.isNone_iff_eq_none, get?_eq_none_iff]

theorem mem_of_get? (isFound : get? entries key = some value) : (key, value) ∈ entries := by
  induction entries with
  | nil => cases isFound
  | cons entry rest ih =>
    obtain ⟨other, content⟩ := entry
    rw [get?] at isFound
    split at isFound
    · rename_i same
      cases isFound
      obtain rfl := beq_iff_eq.mp same
      exact List.mem_cons_self
    · exact List.mem_cons_of_mem _ (ih isFound)

/-! ## Writing -/

theorem mem_put {entry : κ × ν} (isIn : entry ∈ put entries key value) :
    entry ∈ entries ∨ entry = (key, value) := by
  induction entries with
  | nil => exact .inr (List.mem_singleton.mp isIn)
  | cons first rest ih =>
    obtain ⟨other, content⟩ := first
    rw [put] at isIn
    split at isIn
    · rename_i same
      obtain rfl := beq_iff_eq.mp same
      rcases List.mem_cons.mp isIn with rfl | isLater
      · exact .inr rfl
      · exact .inl (List.mem_cons_of_mem _ isLater)
    · rcases List.mem_cons.mp isIn with rfl | isLater
      · exact .inl List.mem_cons_self
      · rcases ih isLater with isOld | isNew
        · exact .inl (List.mem_cons_of_mem _ isOld)
        · exact .inr isNew

/-- A new key comes last. -/
theorem put_of_notMem (isNew : key ∉ keys entries) :
    put entries key value = entries ++ [(key, value)] := by
  induction entries with
  | nil => rfl
  | cons entry rest ih =>
    simp only [keys, List.map_cons, List.mem_cons, not_or] at isNew
    have differs : (entry.1 == key) = false := by simpa using Ne.symm isNew.1
    rw [put, differs, List.cons_append, ← ih isNew.2]
    rfl

theorem lookup_put (other : κ) :
    (put entries key value).lookup other =
      if other == key then some value else entries.lookup other := by
  induction entries with
  | nil =>
    rw [put, List.lookup_cons]
    cases other == key <;> rfl
  | cons entry rest ih =>
    obtain ⟨first, content⟩ := entry
    rw [put]
    split
    · rename_i same
      obtain rfl := beq_iff_eq.mp same
      simp only [List.lookup_cons]
      cases other == first <;> rfl
    · rename_i differs
      simp only [List.lookup_cons, ih]
      cases isFirst : other == first with
      | false => rfl
      | true =>
        obtain rfl := beq_iff_eq.mp isFirst
        simp [differs]

theorem length_put : (put entries key value).length =
    if has entries key then entries.length else entries.length + 1 := by
  have count := congrArg List.length (keys_put entries key value)
  rw [apply_ite List.length] at count
  simpa [keys] using count

theorem nodup_keys_put (apart : (keys entries).Nodup) : (keys (put entries key value)).Nodup := by
  rw [keys_put]
  split
  · exact apart
  · rename_i isNew
    have isOut : key ∉ keys entries := has_eq_false_iff.mp (by simpa using isNew)
    rw [List.nodup_append]
    refine ⟨apart, by simp, ?_⟩
    intro other isOld last isLast
    obtain rfl := List.mem_singleton.mp isLast
    rintro rfl
    exact isOut isOld

omit [LawfulBEq κ] in
theorem putAll_concat (entry : κ × ν) :
    putAll entries (more ++ [entry]) = put (putAll entries more) entry.1 entry.2 := by
  simp [putAll]

theorem mem_putAll {entry : κ × ν} (isIn : entry ∈ putAll entries more) :
    entry ∈ entries ∨ entry ∈ more := by
  induction more generalizing entries with
  | nil => exact .inl isIn
  | cons first rest ih =>
    rw [putAll, List.foldl_cons, ← putAll] at isIn
    rcases ih isIn with isEarlier | isLater
    · rcases mem_put isEarlier with isOld | rfl
      · exact .inl isOld
      · exact .inr List.mem_cons_self
    · exact .inr (List.mem_cons_of_mem _ isLater)

theorem nodup_keys_putAll (apart : (keys entries).Nodup) :
    (keys (putAll entries more)).Nodup := by
  induction more generalizing entries with
  | nil => exact apart
  | cons first rest ih =>
    rw [putAll, List.foldl_cons, ← putAll]
    exact ih (nodup_keys_put apart)

theorem mem_keys_putAll : key ∈ keys (putAll entries more) ↔
    key ∈ keys entries ∨ key ∈ keys more := by
  induction more generalizing entries with
  | nil => simp [putAll, keys]
  | cons first rest ih =>
    rw [putAll, List.foldl_cons, ← putAll, ih, keys_put]
    split
    · rename_i isThere
      have isOld : first.1 ∈ keys entries := by
        by_contra isOut
        rw [has_eq_false_iff.mpr isOut] at isThere
        cases isThere
      simp only [keys, List.map_cons, List.mem_cons] at isOld ⊢
      constructor
      · rintro (isIn | isIn)
        · exact .inl isIn
        · exact .inr (.inr isIn)
      · rintro (isIn | rfl | isIn)
        · exact .inl isIn
        · exact .inl isOld
        · exact .inr isIn
    · simp [keys, or_assoc]

theorem get?_putAll_of_notMem (isOut : key ∉ keys more) :
    get? (putAll entries more) key = get? entries key := by
  induction more generalizing entries with
  | nil => rfl
  | cons entry rest ih =>
    simp only [keys, List.map_cons, List.mem_cons, not_or] at isOut
    rw [putAll, List.foldl_cons, ← putAll, ih isOut.2, get?_put_of_ne _ _ isOut.1]

/-- Of entries with different keys, each is there once all are written. -/
theorem get?_putAll_of_mem (apart : (keys more).Nodup) (isOne : (key, value) ∈ more) :
    get? (putAll entries more) key = some value := by
  induction more generalizing entries with
  | nil => cases isOne
  | cons entry rest ih =>
    simp only [keys, List.map_cons, List.nodup_cons] at apart
    rcases List.mem_cons.mp isOne with rfl | isLater
    · rw [putAll, List.foldl_cons, ← putAll, get?_putAll_of_notMem apart.1, get?_put_self]
    · rw [putAll, List.foldl_cons, ← putAll]
      exact ih apart.2 isLater

/-- Keys that are all new come last, in order. -/
theorem putAll_of_nodup (apart : (keys (entries ++ more)).Nodup) :
    putAll entries more = entries ++ more := by
  induction more generalizing entries with
  | nil => simp [putAll]
  | cons entry rest ih =>
    have isNew : entry.1 ∉ keys entries := by
      intro isOld
      rw [keys, List.map_append, List.nodup_append] at apart
      exact apart.2.2 _ isOld entry.1 (by simp) rfl
    have all : putAll (entries ++ [entry]) rest = entries ++ [entry] ++ rest :=
      ih (by simpa using apart)
    rw [putAll, List.foldl_cons, put_of_notMem isNew]
    simpa [putAll] using all

/-! ## Leaving out -/

omit [LawfulBEq κ] in
theorem nodup_keys_remove (apart : (keys entries).Nodup) (key : κ) :
    (keys (remove entries key)).Nodup := by
  have sublist : (remove entries key).Sublist entries := by
    clear apart
    induction entries with
    | nil => exact .slnil
    | cons entry rest ih =>
      rw [remove]
      split
      · exact .cons _ (.refl _)
      · exact .cons_cons _ ih
  exact apart.sublist (sublist.map Prod.fst)

theorem get?_remove_self (apart : (keys entries).Nodup) : get? (remove entries key) key = none := by
  induction entries with
  | nil => rfl
  | cons entry rest ih =>
    simp only [keys, List.map_cons, List.nodup_cons] at apart
    rw [remove]
    split
    · rename_i same
      apply get?_eq_none_iff.mpr
      rw [← beq_iff_eq.mp same]
      exact apart.1
    · rename_i differs
      rw [get?, if_neg differs]
      exact ih apart.2

theorem get?_remove_of_ne {other : κ} (apart : other ≠ key) :
    get? (remove entries key) other = get? entries other := by
  induction entries with
  | nil => rfl
  | cons entry rest ih =>
    rw [remove]
    split
    · rename_i same
      rw [get?, if_neg]
      rw [beq_iff_eq.mp same]
      simpa using apart.symm
    · rw [get?, get?, ih]

theorem get?_filter {keep : κ × ν → Bool} (kept : ∀ value, keep (key, value) = true) :
    get? (entries.filter keep) key = get? entries key := by
  induction entries with
  | nil => rfl
  | cons entry rest ih =>
    obtain ⟨other, value⟩ := entry
    by_cases same : other = key
    · subst same
      simp [kept, get?]
    · rw [List.filter_cons]
      split <;> simp [get?, same, ih]

theorem get?_of_get?_filter (apart : (keys entries).Nodup) {keep : κ × ν → Bool}
    (isFound : get? (entries.filter keep) key = some value) : get? entries key = some value := by
  induction entries with
  | nil => cases isFound
  | cons entry rest ih =>
    obtain ⟨other, content⟩ := entry
    simp only [keys, List.map_cons, List.nodup_cons] at apart
    by_cases same : other = key
    · subst same
      rw [List.filter_cons] at isFound
      split at isFound
      · simpa [get?] using isFound
      · have missing := get?_eq_none_iff.mpr apart.1
        have later := ih apart.2 isFound
        rw [missing] at later
        cases later
    · have later : get? (rest.filter keep) key = some value := by
        rw [List.filter_cons] at isFound
        split at isFound
        · simpa [get?, same] using isFound
        · exact isFound
      simpa [get?, same] using ih apart.2 later

omit [BEq κ] [LawfulBEq κ] in
theorem nodup_keys_filter (apart : (keys entries).Nodup) (keep : κ × ν → Bool) :
    (keys (entries.filter keep)).Nodup :=
  apart.sublist (List.filter_sublist.map Prod.fst)

end Deferred.Entries
