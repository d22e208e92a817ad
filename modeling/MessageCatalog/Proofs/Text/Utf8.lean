import MessageCatalog.Text.Utf8

/-!
# Text that is stored and read again

Decoding is followed along the sequences that encoding makes.  Each character
gives a sequence of one to four bytes, and decoding gives the character back at
its last byte, whatever comes behind it.
-/

namespace MessageCatalog

namespace Utf8

/-- A byte that continues a sequence brings six more bits. -/
theorem decodeFrom_continued {incomplete : Incomplete} {more : Nat} (hmore : more < 0x40)
    (hlow : incomplete.low ≤ 0x80 + more) (hhigh : 0x80 + more ≤ incomplete.high)
    (hmissing : incomplete.missing ≠ 1) (rest : Bytes) :
    decodeFrom (some incomplete) (UInt8.ofNat (0x80 + more) :: rest) =
      decodeFrom (some ⟨incomplete.bits * 0x40 + more, incomplete.missing - 1, 0x80, 0xBF⟩)
        rest := by
  have hbyte : (UInt8.ofNat (0x80 + more)).toNat = 0x80 + more := by
    rw [UInt8.toNat_ofNat']
    omega
  rw [decodeFrom, hbyte, next, if_pos ⟨hlow, hhigh⟩]
  simp [hmissing]

/-- The last byte of a sequence completes its character. -/
theorem decodeFrom_completed {incomplete : Incomplete} {more : Nat} (hmore : more < 0x40)
    (hlow : incomplete.low ≤ 0x80 + more) (hhigh : 0x80 + more ≤ incomplete.high)
    (hmissing : incomplete.missing = 1) {c : Char}
    (hbits : incomplete.bits * 0x40 + more = c.toNat) (rest : Bytes) :
    decodeFrom (some incomplete) (UInt8.ofNat (0x80 + more) :: rest) =
      some c :: decodeFrom none rest := by
  have hbyte : (UInt8.ofNat (0x80 + more)).toNat = 0x80 + more := by
    rw [UInt8.toNat_ofNat']
    omega
  rw [decodeFrom, hbyte, next, if_pos ⟨hlow, hhigh⟩]
  simp [hmissing, hbits]

theorem decodeFrom_first {byte : Nat} (hbyte : byte < 0x100) (rest : Bytes) :
    decodeFrom none (UInt8.ofNat byte :: rest) =
      (first byte).1 ++ decodeFrom (first byte).2 rest := by
  have htoNat : (UInt8.ofNat byte).toNat = byte := by
    rw [UInt8.toNat_ofNat']
    omega
  rw [decodeFrom, htoNat]

theorem first_of_two {lead : Nat} (hlow : 2 ≤ lead) (hhigh : lead < 0x20) :
    first (0xC0 + lead) = ([], some ⟨lead, 1, 0x80, 0xBF⟩) := by
  have hascii : ¬ 0xC0 + lead < 0x80 := by omega
  have hshort : ¬ 0xC0 + lead < 0xC2 := by omega
  have htwo : 0xC0 + lead < 0xE0 := by omega
  rw [first, if_neg hascii, if_neg hshort, if_pos htwo, Nat.add_sub_cancel_left]

/-- The second byte has to be in range: it must not make the sequence an overlong
one or a surrogate. -/
theorem first_of_three {lead more : Nat} (hlead : lead < 0x10) (hmore : more < 0x40)
    (hlong : 0x800 ≤ lead * 0x1000 + more * 0x40)
    (hsurrogate : lead = 0xD → more < 0x20) :
    ∃ low high, first (0xE0 + lead) = ([], some ⟨lead, 2, low, high⟩) ∧
      low ≤ 0x80 + more ∧ 0x80 + more ≤ high := by
  have hascii : ¬ 0xE0 + lead < 0x80 := by omega
  have hshort : ¬ 0xE0 + lead < 0xC2 := by omega
  have htwo : ¬ 0xE0 + lead < 0xE0 := by omega
  rw [first, if_neg hascii, if_neg hshort, if_neg htwo]
  by_cases hzero : lead = 0
  · refine ⟨0xA0, 0xBF, ?_, by omega, by omega⟩
    simp [hzero]
  · by_cases hthirteen : lead = 0xD
    · have hmid := hsurrogate hthirteen
      refine ⟨0x80, 0x9F, ?_, by omega, by omega⟩
      simp [hthirteen]
    · refine ⟨0x80, 0xBF, ?_, by omega, by omega⟩
      have hother : ¬ 0xE0 + lead = 0xED := by omega
      have hthree : 0xE0 + lead < 0xF0 := by omega
      simp [hzero, hother, hthree]

/-- Here the second byte must make neither an overlong sequence nor a number
beyond all code points. -/
theorem first_of_four {lead more : Nat} (hmore : more < 0x40)
    (hlong : 0x10000 ≤ lead * 0x40000 + more * 0x1000)
    (hlast : lead * 0x40000 + more * 0x1000 < 0x110000) :
    ∃ low high, first (0xF0 + lead) = ([], some ⟨lead, 3, low, high⟩) ∧
      low ≤ 0x80 + more ∧ 0x80 + more ≤ high := by
  have hascii : ¬ 0xF0 + lead < 0x80 := by omega
  have hshort : ¬ 0xF0 + lead < 0xC2 := by omega
  have htwo : ¬ 0xF0 + lead < 0xE0 := by omega
  have hthreeZero : ¬ 0xF0 + lead = 0xE0 := by omega
  have hthreeLast : ¬ 0xF0 + lead = 0xED := by omega
  have hthree : ¬ 0xF0 + lead < 0xF0 := by omega
  rw [first, if_neg hascii, if_neg hshort, if_neg htwo, if_neg hthreeZero, if_neg hthreeLast,
    if_neg hthree]
  by_cases hzero : lead = 0
  · refine ⟨0x90, 0xBF, ?_, by omega, by omega⟩
    simp [hzero]
  · by_cases hfour : lead = 4
    · refine ⟨0x80, 0x8F, ?_, by omega, by omega⟩
      simp [hfour]
    · refine ⟨0x80, 0xBF, ?_, by omega, by omega⟩
      have hinside : 0xF0 + lead < 0xF4 := by omega
      simp [hzero, hinside]

theorem decodeFrom_encodeChar_append (c : Char) (rest : Bytes) :
    decodeFrom none (encodeChar c ++ rest) = some c :: decodeFrom none rest := by
  have hvalid : c.toNat < 0xD800 ∨ 0xDFFF < c.toNat ∧ c.toNat < 0x110000 := c.valid
  unfold encodeChar
  dsimp only
  by_cases hone : c.toNat < 0x80
  · rw [if_pos hone, List.singleton_append, decodeFrom_first (by omega), first, if_pos hone,
      Char.ofNat_toNat]
    rfl
  · rw [if_neg hone]
    by_cases htwo : c.toNat < 0x800
    · rw [if_pos htwo, List.cons_append, List.singleton_append, decodeFrom_first (by omega),
        first_of_two (by omega) (by omega), List.nil_append]
      exact decodeFrom_completed (by omega) (by simp) (by dsimp only; omega) rfl
        (by dsimp only; omega) rest
    · rw [if_neg htwo]
      by_cases hthree : c.toNat < 0x10000
      · have hlead : c.toNat / 0x1000 < 0x10 := by omega
        have hmore : c.toNat / 0x40 % 0x40 < 0x40 := by omega
        obtain ⟨low, high, hfirst, hlow, hhigh⟩ :=
          first_of_three hlead hmore (by omega) (by omega)
        rw [if_pos hthree, List.cons_append, List.cons_append, List.singleton_append,
          decodeFrom_first (by omega), hfirst, List.nil_append,
          decodeFrom_continued hmore hlow hhigh (by simp)]
        exact decodeFrom_completed (by omega) (by simp) (by dsimp only; omega) rfl
          (by dsimp only; omega) rest
      · have hmore : c.toNat / 0x1000 % 0x40 < 0x40 := by omega
        have hlong : 0x10000 ≤
            c.toNat / 0x40000 * 0x40000 + c.toNat / 0x1000 % 0x40 * 0x1000 := by omega
        obtain ⟨low, high, hfirst, hlow, hhigh⟩ := first_of_four hmore hlong (by omega)
        rw [if_neg hthree, List.cons_append, List.cons_append, List.cons_append,
          List.singleton_append, decodeFrom_first (by omega), hfirst, List.nil_append,
          decodeFrom_continued hmore hlow hhigh (by simp),
          decodeFrom_continued (by omega) (by simp) (by dsimp only; omega) (by simp)]
        exact decodeFrom_completed (by omega) (by simp) (by dsimp only; omega) rfl
          (by dsimp only; omega) rest

theorem decode_encode (text : Text) : decode (encode text) = text.map some := by
  induction text with
  | nil => rfl
  | cons c text ih =>
      have hrest : decodeFrom none (encode text) = text.map some := ih
      rw [encode, List.flatMap_cons, decode, decodeFrom_encodeChar_append, List.map_cons, ← hrest]
      rfl

theorem decode?_encode (text : Text) : decode? (encode text) = some text := by
  rw [decode?, decode_encode]
  induction text with
  | nil => rfl
  | cons c text ih =>
      rw [List.map_cons, List.mapM_cons, ih]
      rfl

theorem encode_inj {left right : Text} (hencode : encode left = encode right) :
    left = right := by
  have hdecode : decode? (encode left) = decode? (encode right) := by rw [hencode]
  rwa [decode?_encode, decode?_encode, Option.some.injEq] at hdecode

end Utf8

end MessageCatalog
