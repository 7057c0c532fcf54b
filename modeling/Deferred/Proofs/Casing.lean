import Deferred.Data.Pairing
import Deferred.Proofs.Words

/-!
# The casing of types, letter by letter

Writing a name in the casing of types leaves out what is no ASCII letter or digit and raises the
first letter of each word; every other letter stays as it is.  Doing it again changes nothing.  The
reason is where words end: a word never stops in front of a small letter, so a small letter starts
a word only at the start of the text or after a character of no word.  A name that is already in
the casing of types has no such place, and each of its words keeps the letter it starts with.
-/

namespace Deferred.Text

open CodePoint

variable {text word : List Char}

/-! ## Capitals and small letters -/

theorem not_isLower_of_isUpper {c : Char} (isUpper : c.isUpper = true) : c.isLower = false := by
  refine Bool.eq_false_iff.mpr fun isLower => ?_
  have small := isLower_iff.mp isLower
  have capital := isUpper_iff.mp isUpper
  omega

theorem not_isLower_toUpper (c : Char) : c.toUpper.isLower = false := by
  cases isLower : c.isLower with
  | false => rwa [toUpper_eq_self isLower]
  | true => exact not_isLower_of_isUpper (isUpper_toUpper isLower)

theorem toLower_eq_self {c : Char} (notUpper : c.isUpper = false) : c.toLower = c := by
  have outside : ¬ ('A'.val ≤ c.val ∧ c.val ≤ 'Z'.val) := fun inside =>
    absurd (isUpper_iff.mpr inside) (by rw [notUpper]; exact Bool.false_ne_true)
  exact dif_neg outside

theorem toNat_toLower {c : Char} (isUpper : c.isUpper = true) :
    c.toLower.toNat = c.toNat + 32 := by
  have inside : 65 ≤ c.toNat ∧ c.toNat ≤ 90 := isUpper_iff.mp isUpper
  have lowered : c.toLower.val = c.val + ('a'.val - 'A'.val) := by
    delta Char.toLower
    rw [dif_pos (show 'A'.val ≤ c.val ∧ c.val ≤ 'Z'.val from inside)]
  have numbers : c.toLower.toNat = (c.toNat + 32) % 4294967296 := by
    change c.toLower.val.toNat = _
    rw [lowered, UInt32.toNat_add]
    rfl
  omega

/-- Raising a letter changes nothing but its case. -/
theorem toLower_toUpper (c : Char) : c.toUpper.toLower = c.toLower := by
  cases isLower : c.isLower with
  | false => rw [toUpper_eq_self isLower]
  | true =>
    have bounds := isLower_iff.mp isLower
    have notUpper : c.isUpper = false := Bool.eq_false_iff.mpr fun isUpper => by
      simp [not_isLower_of_isUpper isUpper] at isLower
    rw [toLower_eq_self notUpper, ← Char.toNat_inj, toNat_toLower (isUpper_toUpper isLower),
      toNat_toUpper isLower]
    omega

/-! ## Where a word ends -/

theorem outside_of_mem_head?_dropWhile {inside : Char → Bool} {c : Char}
    (isNext : c ∈ (text.dropWhile inside).head?) : inside c = false := by
  have stops := List.head?_dropWhile_not inside text
  rwa [Option.mem_def.mp isNext] at stops

theorem not_isLower_of_not_inWord {c : Char} (outside : inWord c = false) : c.isLower = false :=
  (Bool.or_eq_false_iff.mp outside).1

/-- A word does not stop in front of a small letter. -/
theorem not_isLower_of_mem_head?_nextWord {c : Char} (isWord : (nextWord text).1 ≠ [])
    (isNext : c ∈ (nextWord text).2.head?) : c.isLower = false := by
  simp only [nextWord] at isWord isNext
  split at isNext
  · rename_i many
    split at isNext
    · -- The run of capitals gives its last one to the next word.
      have someCapital : text.takeWhile Char.isUpper ≠ [] :=
        List.ne_nil_of_length_pos (by omega)
      rw [List.drop_length_sub_one someCapital] at isNext
      obtain rfl : (text.takeWhile Char.isUpper).getLast someCapital = c := by
        simpa using isNext
      have isUpper := List.mem_takeWhile_imp (List.getLast_mem someCapital)
      exact not_isLower_of_isUpper isUpper
    · rename_i noSmall
      rw [Option.mem_def.mp isNext] at noSmall
      exact Bool.eq_false_iff.mpr noSmall
  · rename_i few
    simp only [few, if_false] at isWord
    split at isNext
    · exact not_isLower_of_not_inWord (outside_of_mem_head?_dropWhile isNext)
    · rename_i noBody
      -- Without small letters and digits behind it, the one capital is the whole word.
      have bodyless : (text.dropWhile Char.isUpper).takeWhile inWord = [] := by
        simpa using noBody
      split at isNext
      · rw [← List.takeWhile_append_dropWhile (p := inWord) (l := text.dropWhile Char.isUpper),
          bodyless, List.nil_append] at isNext
        exact not_isLower_of_not_inWord (outside_of_mem_head?_dropWhile isNext)
      · rename_i noCapital
        simp [noBody, noCapital] at isWord

/-! ## Raising the first letter -/

theorem capitalize_eq_self (notSmall : ∀ c ∈ word.head?, c.isLower = false) :
    capitalize word = word := by
  cases word with
  | nil => rfl
  | cons first rest => rw [capitalize, toUpper_eq_self (notSmall first rfl)]

/-- A letter as it is or raised. -/
def Raised (shown letter : Char) : Prop :=
  shown = letter ∨ shown = letter.toUpper

theorem Raised.toLower_eq {shown letter : Char} (raised : Raised shown letter) :
    shown.toLower = letter.toLower := by
  rcases raised with rfl | rfl
  · rfl
  · exact toLower_toUpper letter

theorem forall₂_raised_capitalize (word : List Char) :
    List.Forall₂ Raised (capitalize word) word := by
  cases word with
  | nil => exact .nil
  | cons first rest => exact .cons (.inr rfl) (List.forall₂_same.mpr fun _ _ => .inl rfl)

theorem forall₂_raised_flatMap_capitalize (found : List (List Char)) :
    List.Forall₂ Raised (found.flatMap capitalize) found.flatten := by
  induction found with
  | nil => exact .nil
  | cons word found ih =>
    rw [List.flatMap_cons, List.flatten_cons]
    exact List.rel_append (forall₂_raised_capitalize word) ih

/-! ## Doing it again -/

/-- In a text of ASCII letters and digits that opens with no small letter, no word does. -/
theorem not_isLower_of_mem_wordsWithin {bound : Nat}
    (plain : ∀ c ∈ text, c.isAlphanum = true) (notSmall : ∀ c ∈ text.head?, c.isLower = false)
    (isWord : word ∈ wordsWithin bound text) : ∀ c ∈ word.head?, c.isLower = false := by
  induction bound generalizing text with
  | zero => cases isWord
  | succ bound ih =>
    cases text with
    | nil => cases isWord
    | cons first rest =>
      have starts : (nextWord (first :: rest)).1 ≠ [] :=
        nextWord_ne_nil (plain first List.mem_cons_self)
      have splits := nextWord_append starts
      have isFound : word = (nextWord (first :: rest)).1 ∨
          word ∈ wordsWithin bound (nextWord (first :: rest)).2 := by
        rw [wordsWithin] at isWord
        split at isWord
        · rename_i after isNext
          exact absurd (congrArg Prod.fst isNext) starts
        · rename_i front after _ isNext
          rw [isNext]
          exact List.mem_cons.mp isWord
      rcases isFound with rfl | isLater
      · intro c isFirst
        refine notSmall c ?_
        rwa [← splits, List.head?_append_of_ne_nil _ starts]
      · refine ih (fun c isIn => plain c ?_)
          (fun c isNext => not_isLower_of_mem_head?_nextWord starts isNext) isLater
        rw [← splits]
        exact List.mem_append_right _ isIn

/-- Such a text is in the casing of types as it stands. -/
theorem flatMap_capitalize_words (plain : ∀ c ∈ text, c.isAlphanum = true)
    (notSmall : ∀ c ∈ text.head?, c.isLower = false) :
    (words text).flatMap capitalize = text := by
  have kept : ∀ word ∈ words text, capitalize word = word := fun word isWord =>
    capitalize_eq_self (not_isLower_of_mem_wordsWithin plain notSmall isWord)
  calc (words text).flatMap capitalize
      = (words text).flatten := by
        rw [List.flatMap_def, List.map_congr_left kept, List.map_id']
    _ = text := by rw [flatten_words, List.filter_eq_self.mpr plain]

/-! ## The casing of types -/

/-- A name in the casing of types opens with no small letter. -/
theorem not_isLower_of_mem_head?_pascalCase {name : String} {c : Char}
    (isFirst : c ∈ (pascalCase name).toList.head?) : c.isLower = false := by
  rw [head?_pascalCase] at isFirst
  obtain ⟨letter, -, rfl⟩ := Option.map_eq_some_iff.mp isFirst
  exact not_isLower_toUpper letter

theorem forall₂_raised_pascalCase (name : String) :
    List.Forall₂ Raised (pascalCase name).toList (name.toList.filter Char.isAlphanum) := by
  rw [pascalCase, String.toList_ofList, ← flatten_words]
  exact forall₂_raised_flatMap_capitalize (words name.toList)

theorem pascalCase_pascalCase (name : String) : pascalCase (pascalCase name) = pascalCase name := by
  have again : (words (pascalCase name).toList).flatMap capitalize = (pascalCase name).toList :=
    flatMap_capitalize_words (fun _ => isAlphanum_of_mem_pascalCase)
      (fun _ => not_isLower_of_mem_head?_pascalCase)
  rw [pascalCase, again, String.ofList_toList]

/-- The casing of types keeps the ASCII letters and digits of a name, in their order and each as it
is or raised, and nothing else: up to case the result is the name without its other characters, and
it has no underscore.  It opens with no small letter, and it is its own casing. -/
theorem pascalCase_keeps_letters (name : String) :
    List.Forall₂ Raised (pascalCase name).toList (name.toList.filter Char.isAlphanum) ∧
      (pascalCase name).toList.map Char.toLower =
        (name.toList.filter Char.isAlphanum).map Char.toLower ∧
      '_' ∉ (pascalCase name).toList ∧
      (∀ c ∈ (pascalCase name).toList.head?, c.isLower = false) ∧
      pascalCase (pascalCase name) = pascalCase name := by
  have raised := forall₂_raised_pascalCase name
  have noUnderscore : '_' ∉ (pascalCase name).toList := fun isIn =>
    absurd (isAlphanum_of_mem_pascalCase isIn) (by decide)
  exact ⟨raised, map_eq_of_forall₂ raised fun _ _ => Raised.toLower_eq, noUnderscore,
    fun _ => not_isLower_of_mem_head?_pascalCase, pascalCase_pascalCase name⟩

example : pascalCase "_load_HTTPServer2x" = "LoadHTTPServer2x" := by decide +kernel

end Deferred.Text
