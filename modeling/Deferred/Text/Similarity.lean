/-!
# Similarity of words

How alike two words are: the longest run of characters that they share is matched, then the longest
runs to its left and to its right, and so on.  The share of matched characters in both words
together decides which known words are close enough to a misspelt one to be suggested for it.
-/

namespace Deferred.Text

/-- How many characters two words share at their beginning. -/
def sharedStart : List Char → List Char → Nat
  | first :: rest, second :: tail => if first = second then sharedStart rest tail + 1 else 0
  | _, _ => 0

/-- A shared run: where it starts in either word, and its length. -/
structure SharedRun where
  left : Nat
  right : Nat
  size : Nat
  deriving DecidableEq, Repr, Inhabited

/-- The longest run shared by a suffix of the first word, from position `left`, and the suffixes of
the second, from position `right`.  Of several runs of one length the first counts. -/
def longestFrom (left : Nat) (first : List Char) : Nat → List Char → SharedRun → SharedRun
  | _, [], best => best
  | right, c :: rest, best =>
    let size := sharedStart first (c :: rest)
    longestFrom left first (right + 1) rest
      (if best.size < size then { left, right, size } else best)

/-- The longest run that two words share, the first in the first word and there the first in the
second. -/
def longestRun (second : List Char) : Nat → List Char → SharedRun → SharedRun
  | _, [], best => best
  | left, c :: rest, best =>
    longestRun second (left + 1) rest (longestFrom left (c :: rest) 0 second best)

/-- How many characters two words have in matched runs; `bound` limits the number of nested runs. -/
def matchedWithin : Nat → List Char → List Char → Nat
  | 0, _, _ => 0
  | bound + 1, first, second =>
    let run := longestRun second 0 first { left := 0, right := 0, size := 0 }
    if run.size = 0 then 0
    else
      run.size + matchedWithin bound (first.take run.left) (second.take run.right) +
        matchedWithin bound (first.drop (run.left + run.size)) (second.drop (run.right + run.size))

/-- How many characters two words have in matched runs. -/
def matched (first second : String) : Nat :=
  matchedWithin first.length first.toList second.toList

/-- Are at least three characters in five of both words matched? -/
def isSimilar (known word : String) : Bool :=
  let total := known.length + word.length
  3 * total ≤ 5 * (2 * matched known word)

/-- The known words that a misspelt one may have been meant for. -/
def similarWords (known : List String) (word : String) : List String :=
  known.filter fun candidate => isSimilar candidate word

end Deferred.Text
