import MessageCatalog.Text.Alphanumeric
import Mathlib.Data.List.TakeWhile

/-!
# Decimal digits of all scripts

A decimal digit is a character of the general category `Nd`.  Every script
that has such digits has ten of them in a row, from its zero to its nine.  All
of them are alphanumeric, and those among the first 128 characters are the
usual ones.
-/

namespace MessageCatalog

/-- The zeros of the scripts, in increasing order.  The mathematical alphabets
have five. -/
def decimalZeros : List Nat := [
    0x30, 0x660, 0x6F0, 0x7C0, 0x966, 0x9E6, 0xA66, 0xAE6, 0xB66, 0xBE6, 0xC66, 0xCE6, 0xD66,
    0xDE6, 0xE50, 0xED0, 0xF20, 0x1040, 0x1090, 0x17E0, 0x1810, 0x1946, 0x19D0, 0x1A80, 0x1A90,
    0x1B50, 0x1BB0, 0x1C40, 0x1C50, 0xA620, 0xA8D0, 0xA900, 0xA9D0, 0xA9F0, 0xAA50, 0xABF0,
    0xFF10, 0x104A0, 0x10D30, 0x11066, 0x110F0, 0x11136, 0x111D0, 0x112F0, 0x11450, 0x114D0,
    0x11650, 0x116C0, 0x11730, 0x118E0, 0x11950, 0x11C50, 0x11D50, 0x11DA0, 0x11F50, 0x16A60,
    0x16AC0, 0x16B50, 0x1D7CE, 0x1D7D8, 0x1D7E2, 0x1D7EC, 0x1D7F6, 0x1E140, 0x1E2F0, 0x1E4F0,
    0x1E950, 0x1FBF0
  ]

def decimalRanges : List (Nat × Nat) := decimalZeros.map fun n => (n, n + 9)

/-- Whether a character is a digit from zero to nine in some script. -/
def isDecimalDigit (c : Char) : Bool := inRanges decimalRanges c.toNat

theorem inRanges_iff {ranges : List (Nat × Nat)} {n : Nat} :
    inRanges ranges n = true ↔ ∃ range ∈ ranges, range.1 ≤ n ∧ n ≤ range.2 := by
  simp [inRanges]

/-- Whether the second range lies in the first. -/
def covers (range inner : Nat × Nat) : Bool :=
  Nat.ble range.1 inner.1 && Nat.ble inner.2 range.2

/-- Two tables in increasing order are compared in one pass: what lies in the
first of the wider ranges is taken off the front before the next one is looked
at. -/
def areCovered (ranges wider : List (Nat × Nat)) : Bool :=
  (wider.foldl (fun left range => left.dropWhile (covers range)) ranges).isEmpty

theorem exists_covers_of_areCovered {ranges wider : List (Nat × Nat)}
    (hcovered : areCovered ranges wider = true) :
    ∀ inner ∈ ranges, ∃ range ∈ wider, covers range inner = true := by
  intro inner hinner
  induction wider generalizing ranges with
  | nil =>
      have hnone : ranges = [] := List.isEmpty_iff.mp hcovered
      rw [hnone] at hinner
      cases hinner
  | cons range wider ih =>
      rw [← List.takeWhile_append_dropWhile (p := covers range) (l := ranges),
        List.mem_append] at hinner
      rcases hinner with hfront | hleft
      · exact ⟨range, List.mem_cons_self, List.mem_takeWhile_imp hfront⟩
      · obtain ⟨later, hlater, hcovers⟩ := ih hcovered hleft
        exact ⟨later, List.mem_cons_of_mem range hlater, hcovers⟩

theorem inRanges_of_areCovered {ranges wider : List (Nat × Nat)}
    (hcovered : areCovered ranges wider = true) {n : Nat} (hn : inRanges ranges n = true) :
    inRanges wider n = true := by
  obtain ⟨inner, hinner, hlow, hhigh⟩ := inRanges_iff.mp hn
  obtain ⟨range, hrange, hcovers⟩ := exists_covers_of_areCovered hcovered inner hinner
  obtain ⟨hfirst, hlast⟩ := Bool.and_eq_true_iff.mp hcovers
  refine inRanges_iff.mpr ⟨range, hrange, ?_, ?_⟩
  · exact Nat.le_trans (Nat.le_of_ble_eq_true hfirst) hlow
  · exact Nat.le_trans hhigh (Nat.le_of_ble_eq_true hlast)

theorem isDigit_iff {c : Char} : c.isDigit = true ↔ 0x30 ≤ c.toNat ∧ c.toNat ≤ 0x39 := by
  simp [Char.isDigit, UInt32.le_iff_toNat_le]

theorem isDecimalDigit_of_isDigit {c : Char} (hc : c.isDigit = true) :
    isDecimalDigit c = true :=
  inRanges_iff.mpr ⟨(0x30, 0x39), by decide, isDigit_iff.mp hc⟩

theorem isAlphanumeric_of_isDecimalDigit {c : Char} (hc : isDecimalDigit c = true) :
    isAlphanumeric c = true := by
  have hcovered : areCovered decimalRanges alphanumericRanges = true := by decide +kernel
  unfold isAlphanumeric
  split
  · next hascii =>
      -- The other scripts begin behind the first 128 characters.
      have hrest : ∀ range ∈ decimalRanges, range = (0x30, 0x39) ∨ 0x80 ≤ range.1 := by decide
      obtain ⟨range, hrange, hlow, hhigh⟩ := inRanges_iff.mp hc
      rcases hrest range hrange with rfl | hbehind
      · have hdigit : c.isDigit = true := isDigit_iff.mpr ⟨hlow, hhigh⟩
        simp [Char.isAlphanum, hdigit]
      · omega
  · exact inRanges_of_areCovered hcovered hc

end MessageCatalog
