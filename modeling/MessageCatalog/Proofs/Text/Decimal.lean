import MessageCatalog.Proofs.Placeholder.WellFormed
import Mathlib.Tactic.SplitIfs

/-!
# Numbers in decimal

A number is written with digits only and with at least one of them, so the
numeral ends where another character begins.  Reading the digits gives the
number back, and so does reading a numeral of a specifier, as long as the number
is within the bound.
-/

namespace MessageCatalog

namespace Text

theorem ofNat_ne_nil (n : Nat) : ofNat n ≠ [] := Nat.toDigits_ne_nil

theorem isDigit_of_mem_ofNat {n : Nat} {c : Char} (hc : c ∈ ofNat n) : c.isDigit = true :=
  Nat.isDigit_of_mem_toDigits (by decide) (by decide) hc

theorem not_mem_ofNat {c : Char} (hc : c.isDigit = false) (n : Nat) : c ∉ ofNat n := by
  intro hmem
  have hdigit := isDigit_of_mem_ofNat hmem
  simp [hc] at hdigit

/-- The digits in front of a text that does not begin with one. -/
theorem span_digits_append {digits rest : Text} (hdigits : ∀ c ∈ digits, c.isDigit = true)
    (hrest : ∀ c ∈ rest.head?, c.isDigit = false) :
    (digits ++ rest).takeWhile Char.isDigit = digits ∧
      (digits ++ rest).dropWhile Char.isDigit = rest := by
  rw [List.takeWhile_append_of_pos hdigits, List.dropWhile_append_of_pos hdigits]
  cases rest with
  | nil => simp
  | cons c rest =>
      have hc : c.isDigit = false := hrest c rfl
      rw [List.takeWhile_cons_of_neg (by simp [hc]), List.dropWhile_cons_of_neg (by simp [hc])]
      simp

theorem ofDigitChars_ofNat (n : Nat) : Nat.ofDigitChars 10 (ofNat n) 0 = n :=
  Nat.ofDigitChars_ten_toDigits

/-- The number that a text of digits stands for. -/
def decimal? (text : Text) : Option Nat :=
  if text ≠ [] ∧ text.all Char.isDigit = true then some (Nat.ofDigitChars 10 text 0) else none

theorem decimal?_ofNat (n : Nat) : decimal? (ofNat n) = some n := by
  have hdigits : ofNat n ≠ [] ∧ (ofNat n).all Char.isDigit = true :=
    ⟨ofNat_ne_nil n, List.all_eq_true.mpr fun c => isDigit_of_mem_ofNat⟩
  rw [decimal?, if_pos hdigits, ofDigitChars_ofNat]

theorem isDigit_of_decimal?_eq_some {text : Text} {n : Nat} (htext : decimal? text = some n) :
    ∀ c ∈ text, c.isDigit = true := by
  unfold decimal? at htext
  split_ifs at htext with hdigits
  exact List.all_eq_true.mp hdigits.2

end Text

namespace Numeral

theorem readDigits_eq_ok_iff (text : Text) {value : Nat} (hvalue : value < bound) (n : Nat) :
    readDigits value text = .ok n ↔
      (∀ c ∈ text, c.isDigit = true) ∧ Nat.ofDigitChars 10 text value = n ∧ n < bound := by
  induction text generalizing value with
  | nil =>
      simp only [readDigits, Except.ok.injEq, Nat.ofDigitChars_nil]
      constructor
      · rintro rfl
        exact ⟨by simp, rfl, hvalue⟩
      · exact fun h => h.2.1
  | cons c rest ih =>
      have hle := le_ofDigitChars rest (value * 10 + digitValue c)
      rw [readDigits, ofDigitChars_cons_eq]
      by_cases hdigit : c.isDigit = true
      · by_cases hbound : value * 10 + digitValue c < bound
        · simp [hdigit, hbound, ih hbound]
        · simp only [hdigit, hbound, if_true, if_false, reduceCtorEq, false_iff]
          rintro ⟨-, rfl, hlt⟩
          omega
      · simp [hdigit]

theorem read_ofNat {n : Nat} (hn : n < bound) : read (Text.ofNat n) = .ok n := by
  have hdigits : ∀ c ∈ Text.ofNat n, c.isDigit = true := fun c => Text.isDigit_of_mem_ofNat
  have hread : readDigits 0 (Text.ofNat n) = .ok n :=
    (readDigits_eq_ok_iff _ (by decide) n).mpr ⟨hdigits, Text.ofDigitChars_ofNat n, hn⟩
  obtain ⟨c, rest, htext⟩ := List.exists_cons_of_ne_nil (Text.ofNat_ne_nil n)
  have hplus : c ≠ '+' := by
    rintro rfl
    exact absurd (hdigits '+' (by simp [htext])) (by decide)
  rw [htext] at hread ⊢
  rw [read, if_neg hplus, hread]

theorem lt_of_read_eq_ok {text : Text} {n : Nat} (hread : read text = .ok n) : n < bound := by
  have hdigits : ∀ digits, readDigits 0 digits = .ok n → n < bound := fun digits hok =>
    ((readDigits_eq_ok_iff digits (by decide) n).mp hok).2.2
  unfold read at hread
  split at hread
  · simp at hread
  · split_ifs at hread
    · exact hdigits _ hread
    · exact hdigits _ hread

end Numeral

end MessageCatalog
