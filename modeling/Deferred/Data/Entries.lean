/-!
# Ordered entries

A finite map that remembers the order in which its keys first came: writing to a key that is
present keeps its place, a new key comes last, and a key that was removed and written again comes
last too.  Worlds, name spaces and bindings are all shown in this order.
-/

namespace Deferred

variable {κ ν : Type}

namespace Entries

/-- The value of a key. -/
def get? [BEq κ] (entries : List (κ × ν)) (key : κ) : Option ν :=
  match entries with
  | [] => none
  | (other, value) :: rest => if other == key then some value else get? rest key

/-- Write to a key, in place or at the end. -/
def put [BEq κ] (entries : List (κ × ν)) (key : κ) (value : ν) : List (κ × ν) :=
  match entries with
  | [] => [(key, value)]
  | (other, old) :: rest =>
    if other == key then (other, value) :: rest else (other, old) :: put rest key value

/-- Forget a key. -/
def remove [BEq κ] (entries : List (κ × ν)) (key : κ) : List (κ × ν) :=
  match entries with
  | [] => []
  | (other, value) :: rest => if other == key then rest else (other, value) :: remove rest key

/-- Change the value of a key that is present. -/
def adjust [BEq κ] (entries : List (κ × ν)) (key : κ) (change : ν → ν) : List (κ × ν) :=
  match entries with
  | [] => []
  | (other, value) :: rest =>
    if other == key then (other, change value) :: rest else (other, value) :: adjust rest key change

/-- Is a key present? -/
def has [BEq κ] (entries : List (κ × ν)) (key : κ) : Bool :=
  (get? entries key).isSome

/-- The keys, in order. -/
def keys (entries : List (κ × ν)) : List κ :=
  entries.map Prod.fst

/-- Write several entries in turn. -/
def putAll [BEq κ] (entries : List (κ × ν)) (more : List (κ × ν)) : List (κ × ν) :=
  more.foldl (fun sofar entry => put sofar entry.1 entry.2) entries

section Laws

variable [BEq κ] [LawfulBEq κ] (entries : List (κ × ν)) (key other : κ) (value : ν)

@[simp] theorem get?_put_self : get? (put entries key value) key = some value := by
  induction entries with
  | nil => simp [put, get?]
  | cons entry rest ih =>
    obtain ⟨k, v⟩ := entry
    by_cases h : k == key <;> simp [put, get?, h, ih]

theorem get?_put_of_ne {key other : κ} (h : other ≠ key) :
    get? (put entries key value) other = get? entries other := by
  induction entries with
  | nil => simp [put, get?, Ne.symm h]
  | cons entry rest ih =>
    obtain ⟨k, v⟩ := entry
    by_cases same : k = key
    · subst same
      simp [put, get?, Ne.symm h]
    · simp [put, get?, same, ih]

/-- The keys of a map after a write. -/
theorem keys_put : keys (put entries key value) =
    if has entries key then keys entries else keys entries ++ [key] := by
  induction entries with
  | nil => simp [put, keys, has, get?]
  | cons entry rest ih =>
    obtain ⟨k, v⟩ := entry
    by_cases same : k = key
    · simp [put, keys, has, get?, same]
    · have unfolded : keys (put ((k, v) :: rest) key value) = k :: keys (put rest key value) := by
        simp [put, keys, same]
      rw [unfolded, ih]
      by_cases present : has rest key <;> simp_all [has, get?, keys]

end Laws

end Entries

end Deferred
