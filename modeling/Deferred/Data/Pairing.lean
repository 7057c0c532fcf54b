import Mathlib.Data.List.Forall2

/-!
# Lists taken item by item

Two lists correspond when their items do, each to the one at its own place.  What is told of every
item of the one by the item at its place is told of the whole list.
-/

namespace Deferred

variable {α β γ : Type} {related : α → β → Prop} {first : List α} {second : List β}

theorem forall₂_of_map_eq {f : α → γ} {g : β → γ} (same : first.map f = second.map g) :
    List.Forall₂ (fun item other => f item = g other) first second := by
  rw [← List.forall₂_eq_eq_eq, List.forall₂_map_left_iff, List.forall₂_map_right_iff] at same
  exact same

theorem map_eq_of_forall₂ {f : α → γ} {g : β → γ} (alike : List.Forall₂ related first second)
    (same : ∀ item other, related item other → f item = g other) : first.map f = second.map g := by
  rw [← List.forall₂_eq_eq_eq, List.forall₂_map_left_iff, List.forall₂_map_right_iff]
  exact alike.imp same

theorem forall₂_filter {p : α → Bool} {q : β → Bool} (alike : List.Forall₂ related first second)
    (same : ∀ item other, related item other → p item = q other) :
    List.Forall₂ related (first.filter p) (second.filter q) :=
  List.rel_filter (fun _ _ isRelated => Bool.eq_iff_iff.mp (same _ _ isRelated)) alike

theorem all_of_forall₂ {p : α → Bool} (alike : List.Forall₂ related first second)
    (passes : ∀ item other, related item other → p item = true) : first.all p = true := by
  rw [List.all_eq_true]
  have both : List.Forall₂ (fun item other => p item = true ∧ related item other) first second :=
    alike.imp fun item other isRelated => ⟨passes item other isRelated, isRelated⟩
  exact ((List.forall₂_and_left _ _).mp both).1

end Deferred
