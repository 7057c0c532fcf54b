import Deferred.Text.CodePoint
import Deferred.Text.Words
import Mathlib.Data.List.Infix
import Mathlib.Data.List.TakeWhile

/-!
# What the words of a name keep

The words of a name hold its ASCII letters and digits, all of them and in their order, and nothing
else.  So a name in the casing of types has no underscore and no letter beyond ASCII, and it opens
with whatever the first of those letters and digits is in the name it is made from.
-/

namespace Deferred.Text

open CodePoint

variable {text word : List Char} {first c : Char} {rest : List Char}

/-! ## One word -/

theorem isAlphanum_of_isUpper (isUpper : c.isUpper = true) : c.isAlphanum = true :=
  isAlphanum_iff.mpr (.inl (isAlpha_iff.mpr (.inl isUpper)))

theorem isAlphanum_of_inWord (inside : inWord c = true) : c.isAlphanum = true := by
  rw [inWord, Bool.or_eq_true] at inside
  rcases inside with isLower | isDigit
  · exact isAlphanum_iff.mpr (.inl (isAlpha_iff.mpr (.inr isLower)))
  · exact isAlphanum_iff.mpr (.inr isDigit)

/-- An ASCII letter or digit is a capital, or it is what follows the capital of a word. -/
theorem isUpper_or_inWord (isAlphanum : c.isAlphanum = true) :
    c.isUpper = true ∨ inWord c = true := by
  rw [isAlphanum_iff, isAlpha_iff] at isAlphanum
  simp only [inWord, Bool.or_eq_true]
  tauto

theorem isAlphanum_of_mem_nextWord (isIn : c ∈ (nextWord text).1) : c.isAlphanum = true := by
  have ofCapitals : c ∈ text.takeWhile Char.isUpper → c.isAlphanum = true := fun isLetter =>
    isAlphanum_of_isUpper (List.mem_takeWhile_imp isLetter)
  have ofBody : c ∈ (text.dropWhile Char.isUpper).takeWhile inWord → c.isAlphanum = true :=
    fun isLetter => isAlphanum_of_inWord (List.mem_takeWhile_imp isLetter)
  simp only [nextWord] at isIn
  split at isIn
  · split at isIn
    · exact ofCapitals (List.mem_of_mem_dropLast isIn)
    · exact ofCapitals isIn
  · split at isIn
    · exact (List.mem_append.mp isIn).elim ofCapitals ofBody
    · split at isIn
      · exact ofCapitals isIn
      · cases isIn

/-- A word and what follows it make up the text. -/
theorem nextWord_append (isWord : (nextWord text).1 ≠ []) :
    (nextWord text).1 ++ (nextWord text).2 = text := by
  have splits := List.takeWhile_append_dropWhile (p := Char.isUpper) (l := text)
  simp only [nextWord] at isWord ⊢
  split
  · split
    · -- The last capital goes to the next word.
      rw [List.dropLast_eq_take, ← List.append_assoc, List.take_append_drop]
      exact splits
    · exact splits
  · split
    · rw [List.append_assoc, List.takeWhile_append_dropWhile]
      exact splits
    · split
      · exact splits
      · simp_all

/-- A letter or a digit starts a word. -/
theorem nextWord_ne_nil (isAlphanum : first.isAlphanum = true) :
    (nextWord (first :: rest)).1 ≠ [] := by
  simp only [nextWord]
  split
  · rename_i many
    split
    · exact List.ne_nil_of_length_pos (by rw [List.length_dropLast]; omega)
    · exact List.ne_nil_of_length_pos (Nat.lt_of_succ_lt many)
  · cases isUpper : first.isUpper with
    | true => split <;> simp [isUpper]
    | false =>
      have inside := (isUpper_or_inWord isAlphanum).resolve_left (by simp [isUpper])
      simp [isUpper, inside]

/-- Any other character is skipped. -/
theorem nextWord_of_not_isAlphanum (skipped : first.isAlphanum = false) :
    nextWord (first :: rest) = ([], rest) := by
  have notUpper : first.isUpper = false :=
    eq_false_of_ne_true fun isUpper => by simp [isAlphanum_of_isUpper isUpper] at skipped
  have outside : inWord first = false :=
    eq_false_of_ne_true fun inside => by simp [isAlphanum_of_inWord inside] at skipped
  simp [nextWord, notUpper, outside]

/-! ## All the words -/

theorem flatten_wordsWithin {bound : Nat} (fits : text.length ≤ bound) :
    (wordsWithin bound text).flatten = text.filter Char.isAlphanum := by
  induction bound generalizing text with
  | zero =>
    rw [List.eq_nil_of_length_eq_zero (Nat.le_zero.mp fits)]
    rfl
  | succ bound ih =>
    cases text with
    | nil => rfl
    | cons first rest =>
      rw [wordsWithin]
      split
      · rename_i after isNext
        have skipped : first.isAlphanum = false := eq_false_of_ne_true fun isAlphanum =>
          nextWord_ne_nil isAlphanum (congrArg Prod.fst isNext)
        rw [nextWord_of_not_isAlphanum skipped] at isNext
        cases isNext
        rw [ih (Nat.le_of_succ_le_succ fits), List.filter_cons_of_neg (by simp [skipped])]
      · rename_i word after isWord isNext
        have isFound : (nextWord (first :: rest)).1 = word := congrArg Prod.fst isNext
        have splits := nextWord_append (isFound ▸ isWord)
        rw [isNext] at splits
        have kept : ∀ c ∈ word, c.isAlphanum = true := fun c isIn =>
          isAlphanum_of_mem_nextWord (isFound ▸ isIn)
        have shorter : after.length ≤ bound := by
          have lengths := congrArg List.length splits
          have := List.length_pos_iff.mpr isWord
          simp only [List.length_append] at lengths fits
          omega
        rw [List.flatten_cons, ih shorter, ← splits, List.filter_append,
          List.filter_eq_self.mpr kept]

/-- The words of a text are its ASCII letters and digits, in order. -/
theorem flatten_words (text : List Char) : (words text).flatten = text.filter Char.isAlphanum :=
  flatten_wordsWithin le_rfl

theorem ne_nil_of_mem_wordsWithin {bound : Nat} (isWord : word ∈ wordsWithin bound text) :
    word ≠ [] := by
  induction bound generalizing text with
  | zero => cases isWord
  | succ bound ih =>
    cases text with
    | nil => cases isWord
    | cons first rest =>
      rw [wordsWithin] at isWord
      split at isWord
      · exact ih isWord
      · rename_i isNone _
        rcases List.mem_cons.mp isWord with rfl | isLater
        · exact isNone
        · exact ih isLater

theorem ne_nil_of_mem_words (isWord : word ∈ words text) : word ≠ [] :=
  ne_nil_of_mem_wordsWithin isWord

/-! ## Capitals -/

theorem toUpper_eq_self (notLower : c.isLower = false) : c.toUpper = c := by
  have outside : ¬ ('a'.val ≤ c.val ∧ c.val ≤ 'z'.val) := fun inside =>
    absurd (isLower_iff.mpr inside) (by rw [notLower]; exact Bool.false_ne_true)
  exact dif_neg outside

theorem toNat_toUpper (isLower : c.isLower = true) : c.toUpper.toNat = c.toNat - 32 := by
  have inside : 97 ≤ c.toNat ∧ c.toNat ≤ 122 := isLower_iff.mp isLower
  have raised : c.toUpper.val = c.val + ('A'.val - 'a'.val) := by
    delta Char.toUpper
    rw [dif_pos (show 'a'.val ≤ c.val ∧ c.val ≤ 'z'.val from inside)]
  -- the difference of the two letters is taken modulo 2 ^ 32
  have numbers : c.toUpper.toNat = (c.toNat + 4294967264) % 4294967296 := by
    change c.toUpper.val.toNat = _
    rw [raised, UInt32.toNat_add]
    rfl
  omega

theorem isUpper_toUpper (isLower : c.isLower = true) : c.toUpper.isUpper = true := by
  have bounds := isLower_iff.mp isLower
  rw [isUpper_iff, toNat_toUpper isLower]
  omega

theorem isAlphanum_toUpper (isAlphanum : c.isAlphanum = true) : c.toUpper.isAlphanum = true := by
  cases isLower : c.isLower with
  | false => rwa [toUpper_eq_self isLower]
  | true => exact isAlphanum_of_isUpper (isUpper_toUpper isLower)

theorem isDigit_of_isAlpha (isAlpha : c.isAlpha = true) : c.isDigit = false := by
  rw [isAlpha_iff, isUpper_iff, isLower_iff] at isAlpha
  refine Bool.eq_false_iff.mpr fun isDigit => ?_
  have bounds := isDigit_iff.mp isDigit
  omega

/-- No letter becomes a digit. -/
theorem isDigit_toUpper (c : Char) : c.toUpper.isDigit = c.isDigit := by
  cases isLower : c.isLower with
  | false => rw [toUpper_eq_self isLower]
  | true =>
    rw [isDigit_of_isAlpha (isAlpha_iff.mpr (.inl (isUpper_toUpper isLower))),
      isDigit_of_isAlpha (isAlpha_iff.mpr (.inr isLower))]

/-! ## The casing of types -/

theorem isAlphanum_of_mem_capitalize (plain : ∀ c ∈ word, c.isAlphanum = true)
    (isIn : c ∈ capitalize word) : c.isAlphanum = true := by
  cases word with
  | nil => cases isIn
  | cons first rest =>
    rcases List.mem_cons.mp isIn with rfl | isLater
    · exact isAlphanum_toUpper (plain first List.mem_cons_self)
    · exact plain c (List.mem_cons_of_mem _ isLater)

/-- A name in the casing of types is made of ASCII letters and digits. -/
theorem isAlphanum_of_mem_pascalCase {name : String} (isIn : c ∈ (pascalCase name).toList) :
    c.isAlphanum = true := by
  rw [pascalCase, String.toList_ofList] at isIn
  obtain ⟨word, isWord, isLetter⟩ := List.mem_flatMap.mp isIn
  refine isAlphanum_of_mem_capitalize (fun letter isThere => ?_) isLetter
  have kept := List.mem_flatten.mpr ⟨word, isWord, isThere⟩
  rw [flatten_words] at kept
  exact (List.mem_filter.mp kept).2

theorem head?_flatMap_capitalize {found : List (List Char)} (none : ∀ word ∈ found, word ≠ []) :
    (found.flatMap capitalize).head? = found.flatten.head?.map Char.toUpper := by
  cases found with
  | nil => rfl
  | cons word found =>
    cases word with
    | nil => exact absurd rfl (none [] List.mem_cons_self)
    | cons first rest => rfl

/-- A name in the casing of types opens with the first ASCII letter or digit of the name it is made
from, as a capital. -/
theorem head?_pascalCase (name : String) :
    (pascalCase name).toList.head? = (name.toList.find? Char.isAlphanum).map Char.toUpper := by
  rw [pascalCase, String.toList_ofList, head?_flatMap_capitalize fun word => ne_nil_of_mem_words,
    flatten_words, List.head?_filter]

end Deferred.Text
