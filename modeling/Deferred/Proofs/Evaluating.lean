import Deferred.Plan.Extension
import Deferred.Plan.Routing
import Deferred.Proofs.Construction
import Mathlib.Data.List.Forall2

/-!
# Evaluating code

What the expressions of generated code come to where their names are known: a local variable means
its value, a name of the space around the code means what it is bound to there, and a call is made
once all of its parts are evaluated.
-/

namespace Deferred.Code

open Action Arguments

variable {site : Site} {locals : Bindings} {store : Store} {name : String} {value : Value}

/-! ## Names -/

/-- A name means what the nearest scope binds it to. -/
def Means (site : Site) (locals : Bindings) (store : Store) (name : String) (value : Value) :
    Prop :=
  Entries.get? locals name = some value ∨
    Entries.get? locals name = none ∧ Entries.get? (store.names site.space) name = some value

theorem run_meaning (means : Means site locals store name value) :
    (meaning site locals name).run store = (.ok value, store) := by
  rcases means with isLocal | ⟨notLocal, isName⟩
  · simp only [meaning, bind_eq, run_store_bind, isLocal, pure_eq_done, run_done]
  · simp only [meaning, bind_eq, run_store_bind, notLocal, isName, pure_eq_done, run_done]

theorem run_evaluate_name (means : Means site locals store name value) :
    (evaluate site locals (.name name)).run store = (.ok value, store) :=
  run_meaning means

theorem Means.of_grows {after : Store} (means : Means site locals store name value)
    (grows : store.Grows after) : Means site locals after name value := by
  rcases means with isLocal | ⟨notLocal, isName⟩
  · exact .inl isLocal
  · exact .inr ⟨notLocal, grows.name? isName⟩

/-! ## Lists of expressions -/

/-- Expressions that come to values and leave the store alone. -/
def Comes (site : Site) (locals : Bindings) (store : Store) (expr : Expr) (value : Value) : Prop :=
  (evaluate site locals expr).run store = (.ok value, store)

theorem run_evaluateAll {exprs : List Expr} {values : List Value}
    (comes : List.Forall₂ (Comes site locals store) exprs values) :
    (evaluateAll site locals exprs).run store = (.ok values, store) := by
  induction comes with
  | nil => rfl
  | cons first _ ih =>
    simp only [evaluateAll, bind_eq, pure_eq_done]
    rw [run_bind_of_ok first, run_bind_of_ok ih, run_done]

theorem run_evaluateKeywords {keywords : List (String × Expr)} {values : List (String × Value)}
    (comes : List.Forall₂
      (fun keyword value => keyword.1 = value.1 ∧ Comes site locals store keyword.2 value.2)
      keywords values) :
    (evaluateKeywords site locals keywords).run store = (.ok values, store) := by
  induction comes with
  | nil => rfl
  | @cons keyword value _ _ first _ ih =>
    obtain ⟨name, expr⟩ := keyword
    obtain ⟨rfl, first⟩ := first
    simp only [evaluateKeywords, bind_eq, pure_eq_done]
    rw [run_bind_of_ok first, run_bind_of_ok ih, run_done]

/-- Making a record in code is calling its class with the local variables named as its fields. -/
theorem run_evaluate_construct {fields : List Field} {give : String → Value} {id : ClassId}
    (isRecord : Means site locals store recordAlias (.cls id))
    (isLocal : ∀ field ∈ fields, Entries.get? locals field.name = some (give field.name)) :
    (evaluate site locals (Plan.construct fields)).run store =
      (site.machine.call (.cls id)
        { keywords := named (fields.map Field.name) give }).run store := by
  have keywords : (evaluateKeywords site locals
      (fields.map fun field => (field.name, .name field.name))).run store =
        (.ok (named (fields.map Field.name) give), store) := by
    apply run_evaluateKeywords
    induction fields with
    | nil => exact .nil
    | cons field rest ih =>
      refine .cons ⟨rfl, run_evaluate_name (.inl (isLocal field List.mem_cons_self))⟩ ?_
      exact ih fun other isLater => isLocal other (List.mem_cons_of_mem _ isLater)
  simp only [Plan.construct, evaluate, evaluateAll, bind_eq, pure_eq_done, done_bind]
  rw [run_bind_of_ok (run_meaning isRecord), run_bind_of_ok keywords]

end Deferred.Code
