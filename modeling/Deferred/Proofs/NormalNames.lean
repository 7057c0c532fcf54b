import Deferred.Text.Normal
import Deferred.Text.CodePoint

/-!
# Normal spellings behind a plain opening

An opening in plain ASCII that ends in an underscore stays by itself when the name behind it is put
into its normal spelling: no mark moves in front of it, and none joins the underscore.  So a name
that is its own normal spelling is so behind the opening as well, even where it begins with a mark.
-/

namespace Deferred.Text.Normal

variable {c letter : Char} {letters waiting : List Char}

/-! ## Letters that nothing joins -/

/-- The letters that marks are joined to in a text of triples. -/
def openings : List Char → List Char
  | a :: _ :: _ :: rest => a :: openings rest
  | _ => []

theorem composed?_eq_none (second : Char) (isOther : letter ∉ openings letters) :
    composed? letter second letters = none := by
  fun_induction openings letters with
  | case1 a b made rest ih =>
    rw [List.mem_cons, not_or] at isOther
    rw [composed?, if_neg fun same => isOther.1 same.1.symm]
    exact ih isOther.2
  | case2 letters isShort =>
    rw [composed?]
    exact isShort

/-- Ranges that hold every letter that something is joined to, and neither a mark nor the
underscore. -/
def joinable : List (Nat × Nat) := [
  (0, 94), (96, 767), (880, 1154), (1160, 1424), (1563, 1610), (1649, 1749), (2304, 2363),
  (2493, 2508), (2877, 2892), (2894, 3020), (3133, 3148), (3261, 3276), (3389, 3404), (3531, 3639),
  (4039, 4150), (4352, 4370), (6863, 6963), (6965, 6979), (7680, 8399), (12336, 12440),
  (12443, 42606), (44032, 55203), (69760, 69816), (69891, 69938), (70461, 70476), (70751, 70849),
  (70852, 71102), (71739, 71996)]

theorem openings_cons {line : String} {lines : List String} (isLine : line = String.ofList letters)
    (within : (openings letters).all (fun c => CodePoint.within joinable c.toNat) = true)
    (others : ∀ other ∈ lines, ∀ c ∈ openings other.toList,
      CodePoint.within joinable c.toNat = true) :
    ∀ other ∈ line :: lines, ∀ c ∈ openings other.toList,
      CodePoint.within joinable c.toNat = true := by
  intro other isIn
  cases isIn with
  | head =>
    rw [isLine, String.toList_ofList]
    exact List.all_eq_true.mp within
  | tail _ isLater => exact others other isLater

set_option maxRecDepth 4000 in
/-- What marks are joined to lies in these ranges.  Each line of the table is compared with the list
of its letters before any letter is looked at. -/
theorem openings_compositions : ∀ line ∈ compositions, ∀ c ∈ openings line.toList,
    CodePoint.within joinable c.toNat = true := by
  unfold compositions
  repeat refine openings_cons rfl (by decide +kernel) ?_
  intro other isIn
  cases isIn

theorem apart_markClasses : (markClasses.all fun (_, ranges) => ranges.all fun (first, last) =>
    joinable.all fun (start, stop) => Nat.blt last start || Nat.blt stop first) = true := by
  decide +kernel

/-- No mark lies in these ranges. -/
theorem markClass_eq_zero (isJoinable : CodePoint.within joinable c.toNat = true) :
    markClass c = 0 := by
  rw [CodePoint.within, List.any_eq_true] at isJoinable
  obtain ⟨⟨start, stop⟩, isRange, within⟩ := isJoinable
  have isNone : (markClasses.find? fun (_, ranges) =>
      ranges.any fun (first, last) => first ≤ c.toNat && c.toNat ≤ last) = none := by
    rw [List.find?_eq_none]
    rintro ⟨number, ranges⟩ isClass isMark
    obtain ⟨⟨first, last⟩, isMarkRange, marked⟩ := List.any_eq_true.mp isMark
    have apart := List.all_eq_true.mp (List.all_eq_true.mp (List.all_eq_true.mp apart_markClasses
      _ isClass) _ isMarkRange) _ isRange
    simp only [Bool.or_eq_true, Nat.blt_eq] at apart
    simp only [Bool.and_eq_true, decide_eq_true_eq] at marked within
    omega
  rw [markClass, isNone]
  exact ite_self 0

/-- Nothing is joined to a letter. -/
def Inert (letter : Char) : Prop := ∀ second, joined? letter second = none

theorem inert_of_not_joinable (isOther : CodePoint.within joinable letter.toNat = false) :
    Inert letter := by
  intro second
  have noSyllable : syllable? letter second = none := by
    simp only [CodePoint.within, joinable, List.any_cons, List.any_nil, Bool.or_eq_false_iff,
      Bool.and_eq_false_iff, decide_eq_false_iff_not] at isOther
    rw [syllable?, if_neg, if_neg] <;> simp only [Bool.and_eq_true, decide_eq_true_eq] <;> omega
  have noLetter :
      (compositions.findSome? fun line => composed? letter second line.toList) = none := by
    rw [List.findSome?_eq_none_iff]
    intro line isLine
    apply composed?_eq_none
    intro isOpening
    rw [openings_compositions line isLine letter isOpening] at isOther
    cases isOther
  rw [joined?, noSyllable, noLetter]
  exact ite_self none

theorem inert_underscore : Inert '_' :=
  inert_of_not_joinable rfl

theorem inert_of_mark (isMark : markClass c ≠ 0) : Inert c := by
  apply inert_of_not_joinable
  rw [← Bool.not_eq_true]
  intro isJoinable
  exact isMark (markClass_eq_zero isJoinable)

/-! ## Joining behind such letters -/

/-- Behind a letter that nothing is joined to, the marks stay and the rest is joined by itself. -/
theorem joinTo_of_inert (inert : Inert letter) (waiting letters : List Char) :
    joinTo letter waiting letters = letter :: waiting.reverse ++
      letters.takeWhile (markClass · ≠ 0) ++ join (letters.dropWhile (markClass · ≠ 0)) := by
  induction letters generalizing waiting with
  | nil => simp [joinTo, join]
  | cons c rest ih =>
    have step : joinTo letter waiting (c :: rest) =
        if markClass c = 0 then letter :: waiting.reverse ++ joinTo c [] rest
        else joinTo letter (c :: waiting) rest := by
      rw [joinTo.eq_def]
      cases waiting <;> simp [inert c]
    rw [step]
    by_cases isLetter : markClass c = 0
    · simp [isLetter, join]
    · simp [isLetter, ih]

theorem join_eq_marks (letters : List Char) : join letters =
    letters.takeWhile (markClass · ≠ 0) ++ join (letters.dropWhile (markClass · ≠ 0)) := by
  cases letters with
  | nil => rfl
  | cons c rest =>
    by_cases isLetter : markClass c = 0
    · simp [isLetter]
    · rw [join, joinTo_of_inert (inert_of_mark isLetter)]
      simp [isLetter]

theorem join_underscore (letters : List Char) : join ('_' :: letters) = '_' :: join letters := by
  rw [join, joinTo_of_inert inert_underscore, join_eq_marks letters]
  rfl

/-! ## A plain opening -/

theorem markClass_of_plain (plain : c.toNat < 128) : markClass c = 0 := by
  rw [markClass, if_pos (by omega)]

theorem join_cons_of_plain (plain : c.toNat < 128) (letter : Char) (letters : List Char) :
    join (letter :: c :: letters) = letter :: join (c :: letters) := by
  have stays : joined? letter c = none := if_pos plain
  simp [join, joinTo, stays, markClass_of_plain plain]

theorem join_behind {opening : List Char} (plain : ∀ c ∈ opening, c.toNat < 128)
    (letters : List Char) : join (opening ++ '_' :: letters) = opening ++ '_' :: join letters := by
  induction opening with
  | nil => exact join_underscore letters
  | cons first rest ih =>
    have later := ih fun c isLater => plain c (List.mem_cons_of_mem _ isLater)
    cases rest with
    | nil =>
      rw [List.singleton_append, join_cons_of_plain (by decide), join_underscore]
      rfl
    | cons second others =>
      have isPlain := plain second (List.mem_cons_of_mem _ List.mem_cons_self)
      rw [List.cons_append, List.cons_append, join_cons_of_plain isPlain]
      exact congrArg (first :: ·) later

theorem placeMark_append (isLetter : markClass letter = 0) (mark : Char) (sofar : List Char) :
    placeMark mark (sofar ++ [letter]) = placeMark mark sofar ++ [letter] := by
  induction sofar with
  | nil => simp [placeMark, isLetter]
  | cons last rest ih =>
    rw [List.cons_append, placeMark, placeMark]
    split
    · rw [ih]
      rfl
    · rfl

/-- No mark moves in front of a letter. -/
theorem ordered_cons (isLetter : markClass letter = 0) (letters : List Char) :
    ordered (letter :: letters) = letter :: ordered letters := by
  have kept : ∀ sofar, letters.foldl (fun sofar c => placeMark c sofar) (sofar ++ [letter]) =
      letters.foldl (fun sofar c => placeMark c sofar) sofar ++ [letter] := by
    induction letters with
    | nil => exact fun _ => rfl
    | cons mark rest ih =>
      intro sofar
      rw [List.foldl_cons, List.foldl_cons, placeMark_append isLetter]
      exact ih _
  rw [ordered, ordered, List.foldl_cons]
  exact (congrArg List.reverse (kept [])).trans (by simp)

/-- The letters and marks that the letters of a name are taken apart into. -/
def parts (letters : List Char) : List Char :=
  (letters.flatMap replaced).flatMap (takenApart 8)

theorem parts_cons_of_plain (plain : c.toNat < 128) (letters : List Char) :
    parts (c :: letters) = c :: parts letters := by
  have isOne : takenApart 8 c = [c] := by rw [takenApart, if_pos plain]
  simp [parts, replaced, plain, isOne]

theorem ordered_parts_append {opening : List Char} (plain : ∀ c ∈ opening, c.toNat < 128)
    (letters : List Char) :
    ordered (parts (opening ++ letters)) = opening ++ ordered (parts letters) := by
  induction opening with
  | nil => rfl
  | cons first rest ih =>
    have isPlain := plain first List.mem_cons_self
    rw [List.cons_append, parts_cons_of_plain isPlain, ordered_cons (markClass_of_plain isPlain),
      ih fun c isLater => plain c (List.mem_cons_of_mem _ isLater)]
    rfl

end Normal

open Normal

/-- **A plain opening that ends in an underscore stays by itself.** -/
theorem normalName_append {opening : String}
    (plain : opening.toList.all (fun c => decide (c.toNat < 128)) = true)
    (ends : opening.toList.getLast? = some '_') (name : String) :
    normalName (opening ++ name) = opening ++ normalName name := by
  have isPlain : ∀ c ∈ opening.toList, c.toNat < 128 :=
    fun c isIn => of_decide_eq_true (List.all_eq_true.mp plain c isIn)
  obtain ⟨front, isOpening⟩ := List.getLast?_eq_some_iff.mp ends
  have whole : (opening ++ name).toList = opening.toList ++ name.toList := String.toList_append
  have sameTest : (opening ++ name).toList.all (fun c => decide (c.toNat < 128)) =
      name.toList.all fun c => decide (c.toNat < 128) := by
    rw [whole, List.all_append, plain, Bool.true_and]
  rw [normalName, normalName, sameTest]
  split
  · rfl
  · have ordering := ordered_parts_append isPlain name.toList
    rw [← whole, isOpening, List.append_assoc, List.singleton_append] at ordering
    have joins := congrArg join ordering
    rw [join_behind fun c isIn => isPlain c (isOpening ▸ List.mem_append_left _ isIn)] at joins
    apply String.toList_inj.mp
    simpa [parts, String.toList_append, isOpening] using joins

end Deferred.Text
