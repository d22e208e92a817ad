import MessageCatalog.Text.Basic
import Mathlib.Data.List.Infix
import Mathlib.Tactic.Tauto

/-!
# Neighbouring characters

Whether two given characters stand next to each other somewhere in a text is
decided at its front, and where two texts meet.
-/

namespace MessageCatalog

namespace Text

variable {a b : Char}

theorem pair_prefix_cons_iff {c : Char} {text : Text} :
    [a, b] <+: c :: text ↔ c = a ∧ text.head? = some b := by
  rw [List.cons_prefix_cons, eq_comm (a := a)]
  cases text with
  | nil => simp
  | cons d rest => simp [List.cons_prefix_cons, eq_comm (a := b)]

theorem pair_infix_cons_iff {c : Char} {text : Text} :
    [a, b] <:+: c :: text ↔ (c = a ∧ text.head? = some b) ∨ [a, b] <:+: text := by
  rw [List.infix_cons_iff, pair_prefix_cons_iff]

theorem pair_infix_append_iff {left right : Text} :
    [a, b] <:+: left ++ right ↔
      [a, b] <:+: left ∨ [a, b] <:+: right ∨
        (left.getLast? = some a ∧ right.head? = some b) := by
  induction left with
  | nil => simp
  | cons c left ih =>
      rw [List.cons_append, pair_infix_cons_iff, pair_infix_cons_iff, ih]
      cases left with
      | nil => simp; tauto
      | cons d rest => simp; tauto

/-! ## What ends or begins with a character -/

theorem infix_of_infix_append {part text rest : Text} (hrest : a ∉ rest)
    (hpart : part ++ [a] <:+: text ++ rest) : part ++ [a] <:+: text := by
  obtain ⟨before, after, heq⟩ := hpart
  rcases List.append_eq_append_iff.mp heq with ⟨between, rfl, -⟩ | ⟨between, hfront, rfl⟩
  · exact ⟨before, between, rfl⟩
  · -- The part ends in the text, or its last character is behind it.
    rcases List.eq_nil_or_concat between with rfl | ⟨more, last, rfl⟩
    · rw [List.append_nil] at hfront
      rw [← hfront]
      exact (List.suffix_append before (part ++ [a])).isInfix
    · rw [List.concat_eq_append, ← List.append_assoc, ← List.append_assoc] at hfront
      obtain ⟨-, hlast⟩ := List.append_inj' hfront rfl
      apply absurd _ hrest
      rw [List.singleton_inj.mp hlast]
      simp

theorem infix_of_append_infix {part front text : Text} (hfront : a ∉ front)
    (hpart : a :: part <:+: front ++ text) : a :: part <:+: text := by
  rw [← List.reverse_infix, List.reverse_cons] at hpart ⊢
  rw [List.reverse_append] at hpart
  apply infix_of_infix_append _ hpart
  rwa [List.mem_reverse]

end Text

end MessageCatalog
