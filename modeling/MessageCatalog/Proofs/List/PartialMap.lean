import Mathlib.Data.List.Forall2

/-!
# Lists under partial functions

A function that may have no result is applied to every member of a list.  There is a
list of results if and only if each member has one, and then it has them in order.
-/

namespace MessageCatalog

variable {α β γ : Type}

theorem mapM_eq_some_iff {f : α → Option β} {items : List α} {results : List β} :
    items.mapM f = some results ↔ List.Forall₂ (fun a b => f a = some b) items results := by
  induction items generalizing results with
  | nil => simp [eq_comm]
  | cons item items ih =>
      rw [List.mapM_cons]
      cases results with
      | nil => cases f item <;> cases items.mapM f <;> simp
      | cons result results =>
          rw [List.forall₂_cons, ← ih]
          cases f item <;> cases items.mapM f <;> simp

theorem mapM_eq_none_iff {f : α → Option β} {items : List α} :
    items.mapM f = none ↔ ∃ item ∈ items, f item = none := by
  induction items with
  | nil => simp
  | cons item items ih =>
      rw [List.mapM_cons, List.exists_mem_cons_iff, ← ih]
      cases f item <;> cases items.mapM f <;> simp

theorem mapM_eq_some_map_iff {f : α → Option β} {g : α → β} {items : List α} :
    items.mapM f = some (items.map g) ↔ ∀ item ∈ items, f item = some (g item) := by
  rw [mapM_eq_some_iff, List.forall₂_map_right_iff, List.forall₂_same]

theorem mapM_map_result {f : α → Option β} (g : β → γ) (items : List α) :
    items.mapM (fun item => (f item).map g) = (items.mapM f).map (List.map g) := by
  induction items with
  | nil => rfl
  | cons item items ih =>
      rw [List.mapM_cons, List.mapM_cons, ih]
      cases f item <;> cases items.mapM f <;> rfl

theorem mapM_map_eq_some {read? : β → Option γ} {write : α → β} {view : α → γ}
    (hread : ∀ a, read? (write a) = some (view a)) (items : List α) :
    (items.map write).mapM read? = some (items.map view) := by
  rw [List.mapM_map, mapM_eq_some_map_iff]
  exact fun item _ => hread item

end MessageCatalog
