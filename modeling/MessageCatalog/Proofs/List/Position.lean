import Mathlib.Data.List.Basic

/-!
# Positions of a list

A condition on a position of a list may speak of what stands before it and of
what stands behind it.  Such conditions are checked along the list from either
end.
-/

namespace MessageCatalog

variable {α : Type} {condition : List α → α → List α → Prop}

theorem forall_position_nil :
    ∀ before x after, ([] : List α) = before ++ x :: after → condition before x after := by
  intro before x after heq
  simp at heq

theorem forall_position_cons {first : α} {rest : List α} :
    (∀ before x after, first :: rest = before ++ x :: after →
        condition before x after) ↔
      condition [] first rest ∧
        ∀ before x after, rest = before ++ x :: after →
          condition (first :: before) x after := by
  constructor
  · intro hall
    refine ⟨hall [] first rest rfl, ?_⟩
    intro before x after heq
    exact hall (first :: before) x after (by rw [heq, List.cons_append])
  · rintro ⟨hfirst, hrest⟩ before x after heq
    cases before with
    | nil =>
        simp only [List.nil_append, List.cons.injEq] at heq
        obtain ⟨rfl, rfl⟩ := heq
        exact hfirst
    | cons y before =>
        simp only [List.cons_append, List.cons.injEq] at heq
        obtain ⟨rfl, heq⟩ := heq
        exact hrest before x after heq

theorem concat_eq_append_cons_iff {list before after : List α} {last x : α} :
    list ++ [last] = before ++ x :: after ↔
      (list = before ∧ last = x ∧ after = []) ∨
        ∃ init, list = before ++ x :: init ∧ after = init ++ [last] := by
  constructor
  · intro heq
    rcases List.eq_nil_or_concat' after with rfl | ⟨init, y, rfl⟩
    · left
      obtain ⟨hlist, hlast⟩ := List.append_inj' heq rfl
      exact ⟨hlist, (List.cons.inj hlast).1, rfl⟩
    · right
      rw [← List.cons_append, ← List.append_assoc] at heq
      obtain ⟨hlist, hlast⟩ := List.append_inj' heq rfl
      rw [(List.cons.inj hlast).1]
      exact ⟨init, hlist, rfl⟩
  · rintro (⟨rfl, rfl, rfl⟩ | ⟨init, rfl, rfl⟩)
    · rfl
    · simp

theorem forall_position_concat {front : List α} {last : α} :
    (∀ before x after, front ++ [last] = before ++ x :: after →
        condition before x after) ↔
      (∀ before x after, front = before ++ x :: after →
          condition before x (after ++ [last])) ∧
        condition front last [] := by
  constructor
  · intro hall
    refine ⟨?_, hall front last [] rfl⟩
    intro before x after heq
    exact hall before x (after ++ [last]) (by simp [heq])
  · rintro ⟨hfront, hlast⟩ before x after heq
    rcases concat_eq_append_cons_iff.mp heq with ⟨rfl, rfl, rfl⟩ | ⟨init, hsplit, rfl⟩
    · exact hlast
    · exact hfront before x init hsplit

end MessageCatalog
