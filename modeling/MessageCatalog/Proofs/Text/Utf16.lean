import MessageCatalog.Text.Utf16

/-!
# UTF-16 that is stored and read again

Decoding is followed unit by unit.  A unit comes back from its two bytes in the order
they were written in.  A character of the first 2^16 is its unit, since no character
is a surrogate, and any other character comes back from its two surrogates.
-/

namespace MessageCatalog

namespace Utf16

theorem ByteOrder.exists_bytes_eq (order : ByteOrder) {unit : Nat} (hunit : unit < 0x10000) :
    ∃ a b, order.bytes unit = [a, b] ∧ order.unit a b = unit := by
  have hlow : (UInt8.ofNat (unit % 0x100)).toNat = unit % 0x100 := by
    rw [UInt8.toNat_ofNat']
    omega
  have hhigh : (UInt8.ofNat (unit / 0x100)).toNat = unit / 0x100 := by
    rw [UInt8.toNat_ofNat']
    omega
  cases order with
  | little =>
      refine ⟨_, _, rfl, ?_⟩
      rw [ByteOrder.unit, hlow, hhigh]
      omega
  | big =>
      refine ⟨_, _, rfl, ?_⟩
      rw [ByteOrder.unit, hlow, hhigh]
      omega

variable (order : ByteOrder)

theorem decodeFrom_none_bytes {unit : Nat} (hunit : unit < 0x10000) (rest : Bytes) :
    decodeFrom order none (order.bytes unit ++ rest) =
      (first unit).1 ++ decodeFrom order (first unit).2 rest := by
  obtain ⟨a, b, hbytes, heq⟩ := order.exists_bytes_eq hunit
  rw [hbytes, List.cons_append, List.singleton_append, decodeFrom, heq]

theorem decodeFrom_some_bytes (high : Nat) {unit : Nat} (hunit : unit < 0x10000)
    (rest : Bytes) :
    decodeFrom order (some high) (order.bytes unit ++ rest) =
      (next high unit).1 ++ decodeFrom order (next high unit).2 rest := by
  obtain ⟨a, b, hbytes, heq⟩ := order.exists_bytes_eq hunit
  rw [hbytes, List.cons_append, List.singleton_append, decodeFrom, heq]

theorem first_of_not_surrogate {unit : Nat} (hunit : unit < 0xD800 ∨ 0xE000 ≤ unit) :
    first unit = ([some (Char.ofNat unit)], none) := by
  have hhigh : isHigh unit = false := by
    simp only [isHigh, Bool.and_eq_false_iff, decide_eq_false_iff_not]
    omega
  have hlow : isLow unit = false := by
    simp only [isLow, Bool.and_eq_false_iff, decide_eq_false_iff_not]
    omega
  simp [first, hhigh, hlow]

theorem first_of_high {more : Nat} (hmore : more < 0x400) :
    first (0xD800 + more) = ([], some (0xD800 + more)) := by
  have hhigh : isHigh (0xD800 + more) = true := by
    simp only [isHigh, Bool.and_eq_true, decide_eq_true_eq]
    omega
  rw [first, if_pos hhigh]

theorem next_of_low {high more : Nat} (hmore : more < 0x400) :
    next high (0xDC00 + more) = ([some (pair high (0xDC00 + more))], none) := by
  have hlow : isLow (0xDC00 + more) = true := by
    simp only [isLow, Bool.and_eq_true, decide_eq_true_eq]
    omega
  rw [next, if_pos hlow]

theorem pair_surrogates {c : Char} (hc : 0x10000 ≤ c.toNat) :
    pair (0xD800 + (c.toNat - 0x10000) / 0x400) (0xDC00 + (c.toNat - 0x10000) % 0x400) =
      c := by
  have hnumber : 0x10000 + (0xD800 + (c.toNat - 0x10000) / 0x400 - 0xD800) * 0x400 +
      (0xDC00 + (c.toNat - 0x10000) % 0x400 - 0xDC00) = c.toNat := by
    omega
  rw [pair, hnumber, Char.ofNat_toNat]

theorem decodeFrom_encodeChar_append (c : Char) (rest : Bytes) :
    decodeFrom order none (encodeChar order c ++ rest) =
      some c :: decodeFrom order none rest := by
  have hvalid : c.toNat < 0xD800 ∨ 0xDFFF < c.toNat ∧ c.toNat < 0x110000 := c.valid
  unfold encodeChar
  dsimp only
  by_cases hshort : c.toNat < 0x10000
  · have hunit : c.toNat < 0xD800 ∨ 0xE000 ≤ c.toNat := by omega
    rw [if_pos hshort, decodeFrom_none_bytes order hshort, first_of_not_surrogate hunit,
      Char.ofNat_toNat]
    rfl
  · have hhigh : (c.toNat - 0x10000) / 0x400 < 0x400 := by omega
    have hlow : (c.toNat - 0x10000) % 0x400 < 0x400 := by omega
    rw [if_neg hshort, List.append_assoc, decodeFrom_none_bytes order (by omega),
      first_of_high hhigh, List.nil_append, decodeFrom_some_bytes order _ (by omega),
      next_of_low hlow, pair_surrogates (by omega)]
    rfl

theorem decode_encode (text : Text) : decode order (encode order text) = text.map some := by
  induction text with
  | nil => rfl
  | cons c text ih =>
      have hrest : decodeFrom order none (encode order text) = text.map some := ih
      rw [encode, List.flatMap_cons, decode, decodeFrom_encodeChar_append, List.map_cons,
        ← hrest]
      rfl

end Utf16

end MessageCatalog
