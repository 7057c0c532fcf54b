import Deferred.Data.Entries
import Deferred.Text.Identifier
import Deferred.Text.Quoted

/-!
# Collecting lines and bindings

An emitter collects lines at the current depth of indentation, together with the things that the
lines use.  A name is bound to one thing only: binding it again to the same thing changes nothing,
and binding it to another is refused.  A fragment is what an emitter has collected, under a name.
-/

namespace Deferred.Code

open Deferred.Text

/-- A named piece of generated text and the things it uses. -/
structure Fragment (ν : Type) where
  name : String
  source : String
  bindings : List (String × ν)
  deriving Inhabited

/-- A name that would mean two things. -/
structure BindingConflict where
  name : String
  deriving DecidableEq, Repr, Inhabited

namespace BindingConflict

def message (conflict : BindingConflict) : String :=
  "conflicting bindings for `" ++ conflict.name ++ "`"

end BindingConflict

/-- Lines and bindings collected so far. -/
structure Emitter (ν : Type) where
  indent : String := "    "
  level : Nat := 0
  lines : List String := []
  bindings : List (String × ν) := []

namespace Emitter

variable {ν : Type}

/-- Add one line; an empty line is not indented. -/
def line (emitter : Emitter ν) (code : String) : Emitter ν :=
  let written :=
    if code = "" then "" else String.join (List.replicate emitter.level emitter.indent) ++ code
  { emitter with lines := emitter.lines ++ [written] }

/-- Add a header; what follows is one level deeper. -/
def enter (emitter : Emitter ν) (header : String) : Emitter ν :=
  let after := emitter.line header
  { after with level := after.level + 1 }

/-- Leave a block. -/
def leave (emitter : Emitter ν) : Emitter ν :=
  { emitter with level := emitter.level - 1 }

/-- Add a documentation text; an empty one adds nothing. -/
def doc (emitter : Emitter ν) (text : String) : Emitter ν :=
  if text = "" then emitter else emitter.line (quote text)

/-- Write a thing to a name that has the reserved opening already. -/
def bindAs [BEq ν] (bindings : List (String × ν)) (name : String) (value : ν) :
    Except BindingConflict (List (String × ν)) :=
  match Entries.get? bindings name with
  | some other => if other == value then .ok bindings else .error ⟨name⟩
  | none => .ok (Entries.put bindings name value)

/-- Make a thing reachable from the text; the answer is the name it is reached by. -/
def bind [BEq ν] (emitter : Emitter ν) (name : String) (value : ν) :
    Except BindingConflict (String × Emitter ν) := do
  let bindings ← bindAs emitter.bindings (reserved name) value
  return (reserved name, { emitter with bindings })

/-- Bind several things in turn. -/
def bindAll [BEq ν] (emitter : Emitter ν) :
    List (String × ν) → Except BindingConflict (Emitter ν)
  | [] => .ok emitter
  | (name, value) :: rest => do
    let (_, after) ← emitter.bind name value
    after.bindAll rest

/-- What was collected, under a name. -/
def fragment (emitter : Emitter ν) (name : String) : Fragment ν :=
  { name
    source := String.intercalate "\n" emitter.lines ++ "\n"
    bindings := emitter.bindings }

end Emitter

/-- A name that two fragments give different meanings. -/
structure MergeConflict where
  fragment : String
  binding : String
  deriving DecidableEq, Repr, Inhabited

namespace MergeConflict

def message (conflict : MergeConflict) : String :=
  "fragment `" ++ conflict.fragment ++ "` rebinds `" ++ conflict.binding ++ "`"

end MergeConflict

namespace Fragment

variable {ν : Type}

/-- Add the bindings of one fragment to those collected so far. -/
def mergeInto [BEq ν] (fragment : String) (merged : List (String × ν)) :
    List (String × ν) → Except MergeConflict (List (String × ν))
  | [] => .ok merged
  | (name, value) :: rest =>
    match Emitter.bindAs merged name value with
    | .ok merged => mergeInto fragment merged rest
    | .error _ => .error ⟨fragment, name⟩

/-- The bindings of several fragments together; a name must mean one thing. -/
def merge [BEq ν] (merged : List (String × ν)) :
    List (Fragment ν) → Except MergeConflict (List (String × ν))
  | [] => .ok merged
  | fragment :: rest => do
    merge (← mergeInto fragment.name merged fragment.bindings) rest

/-- The text of several fragments, an empty line between any two. -/
def join (fragments : List (Fragment ν)) : String :=
  String.intercalate "\n" (fragments.map Fragment.source)

end Fragment

end Deferred.Code
