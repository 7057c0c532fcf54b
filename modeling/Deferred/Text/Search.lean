/-!
# Searching and cutting sequences

Finding a sequence inside another, counting where it stands, cutting a sequence at it and putting
another in its place.  Matches are taken from one end and do not overlap.  Everything works on the
items of any sequence, so that text and octets share it.
-/

namespace Deferred.Text

variable {α : Type}

/-- A sequence without the items at its start that a test holds of. -/
def trimStart (test : α → Bool) (items : List α) : List α := items.dropWhile test

/-- A sequence without the items at its end that a test holds of. -/
def trimEnd (test : α → Bool) (items : List α) : List α :=
  (items.reverse.dropWhile test).reverse

/-- The words of a sequence, which a test tells from what stands between them.  Once `limit` words
are cut off, the rest is the last word, with the blanks at its end. -/
def wordsBetween (blank : α → Bool) (limit : Option Nat) : Nat → List α → List (List α)
  | 0, _ => []
  | bound + 1, items =>
    match trimStart blank items, limit with
    | [], _ => []
    | rest, some 0 => [rest]
    | rest, limit =>
      rest.takeWhile (fun item => !blank item) ::
        wordsBetween blank (limit.map (· - 1)) bound (rest.dropWhile fun item => !blank item)

/-- The words of a sequence, at most `limit` of them cut off its start. -/
def wordsOf (blank : α → Bool) (limit : Option Nat) (items : List α) : List (List α) :=
  wordsBetween blank limit (items.length + 1) items

/-- The words of a sequence, at most `limit` of them cut off its end. -/
def wordsFromEnd (blank : α → Bool) (limit : Option Nat) (items : List α) : List (List α) :=
  ((wordsOf blank limit items.reverse).map List.reverse).reverse

variable [BEq α]

/-- The places at which a sequence stands inside another, overlapping ones included; `place` is that
of the first item of the second. -/
def placesOf (sought : List α) (place : Nat) : List α → List Nat
  | [] => if sought.isEmpty then [place] else []
  | item :: rest =>
    let later := placesOf sought (place + 1) rest
    if sought.isPrefixOf (item :: rest) then place :: later else later

/-- The first place of a sequence inside another. -/
def firstPlace? (sought items : List α) : Option Nat := (placesOf sought 0 items).head?

/-- The last place of a sequence inside another. -/
def lastPlace? (sought items : List α) : Option Nat := (placesOf sought 0 items).getLast?

/-- Of some places in ascending order, those that leave `size` items to the one taken before;
`free` is the first place that may be taken. -/
def apart (size free : Nat) : List Nat → List Nat
  | [] => []
  | place :: rest =>
    if place < free then apart size free rest else place :: apart size (place + max size 1) rest

/-- How often a sequence stands inside another. -/
def occurrences (sought items : List α) : Nat :=
  (apart sought.length 0 (placesOf sought 0 items)).length

/-- The parts of a sequence between the places where another stands, at most `limit` of the places
counted.  `size` is the length of what stands at the places, `start` the place of the first item. -/
def cutAt (size start : Nat) (items : List α) : List Nat → List (List α)
  | [] => [items]
  | place :: rest =>
    items.take (place - start) ::
      cutAt size (place + size) (items.drop (place - start + size)) rest

/-- The parts of a sequence between separators, cut at the first `limit` of them if there is a
limit. -/
def parts (separator : List α) (limit : Option Nat) (items : List α) : List (List α) :=
  let places := apart separator.length 0 (placesOf separator 0 items)
  cutAt separator.length 0 items ((limit.map places.take).getD places)

/-- The parts of a sequence between separators, cut at the last `limit` of them if there is a
limit. -/
def partsFromEnd (separator : List α) (limit : Option Nat) (items : List α) : List (List α) :=
  ((parts separator.reverse limit items.reverse).map List.reverse).reverse

/-- A sequence with another put in place of a third, at the first `limit` places if there is a
limit.  In place of nothing it is put before every item and behind the last. -/
def substitute (old new : List α) (limit : Option Nat) (items : List α) : List α :=
  if old.isEmpty then
    let count := (limit.map fun limit => min limit (items.length + 1)).getD (items.length + 1)
    (items.take count).flatMap (fun item => new ++ [item]) ++
      (if items.length < count then new else []) ++ items.drop count
  else List.flatten (List.intersperse new (parts old limit items))

/-- What stands before the first separator, the separator, and what stands behind it. -/
def around (separator items : List α) : List α × List α × List α :=
  match firstPlace? separator items with
  | some place => (items.take place, separator, items.drop (place + separator.length))
  | none => (items, [], [])

/-- What stands before the last separator, the separator, and what stands behind it. -/
def aroundLast (separator items : List α) : List α × List α × List α :=
  match lastPlace? separator items with
  | some place => (items.take place, separator, items.drop (place + separator.length))
  | none => ([], [], items)

/-- Does a sequence begin with another? -/
def beginsWith (items opening : List α) : Bool := opening.isPrefixOf items

/-- Does a sequence end with another? -/
def endsWith (items ending : List α) : Bool := ending.reverse.isPrefixOf items.reverse

end Deferred.Text
