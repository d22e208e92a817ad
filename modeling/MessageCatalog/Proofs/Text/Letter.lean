/-!
# Letters

The letters meant here are the ones of the Latin alphabet, capital or not, so
that what is to be said of all of them can be looked up among the first 128
characters.
-/

namespace MessageCatalog

namespace Text

theorem toNat_lt_of_isAlpha {c : Char} (hc : c.isAlpha = true) : c.toNat < 128 := by
  have hcases : c.isUpper = true ∨ c.isLower = true := Bool.or_eq_true_iff.mp hc
  have hle : c.toNat ≤ 'z'.toNat := by
    rcases hcases with hupper | hlower
    · have hbounds : 'A'.val ≤ c.val ∧ c.val ≤ 'Z'.val := of_decide_eq_true hupper
      exact Nat.le_trans (UInt32.le_iff_toNat_le.mp hbounds.2) (by decide)
    · have hlast : decide (c.val ≤ 'z'.val) = true := (Bool.and_eq_true_iff.mp hlower).2
      exact UInt32.le_iff_toNat_le.mp (of_decide_eq_true hlast)
  exact Nat.lt_of_le_of_lt hle (by decide)

theorem forall_isAlpha {holds : Char → Prop}
    (hall : ∀ n < 128, (Char.ofNat n).isAlpha = true → holds (Char.ofNat n)) {c : Char}
    (hc : c.isAlpha = true) : holds c := by
  have hchar := hall c.toNat (toNat_lt_of_isAlpha hc)
  rw [Char.ofNat_toNat] at hchar
  exact hchar hc

theorem isDigit_eq_false_of_isAlpha {c : Char} (hc : c.isAlpha = true) : c.isDigit = false := by
  apply forall_isAlpha _ hc
  decide

theorem isAlphanum_toLower {c : Char} (hc : c.isAlpha = true) : c.toLower.isAlphanum = true := by
  apply forall_isAlpha _ hc
  decide

theorem isAlphanum_toUpper {c : Char} (hc : c.isAlpha = true) : c.toUpper.isAlphanum = true := by
  apply forall_isAlpha _ hc
  decide

end Text

end MessageCatalog
