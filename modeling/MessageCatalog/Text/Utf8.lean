import MessageCatalog.Text.Basic

/-!
# UTF-8

Text is stored as bytes in UTF-8.  Decoding gives, from left to right, the
characters and the malformed sequences; a malformed sequence is as long as
the part of it that could still have become well-formed.
-/

namespace MessageCatalog

abbrev Bytes := List UInt8

namespace Utf8

/-- A sequence of bytes that is not complete: the bits so far, the number of
bytes that are missing, and the range in which the next one has to lie. -/
structure Incomplete where
  bits : Nat
  missing : Nat
  low : Nat
  high : Nat
  deriving DecidableEq, Repr

/-- The state of decoding behind a byte: what was decoded, where `none` is a
malformed sequence, and what is incomplete. -/
abbrev Step := List (Option Char) × Option Incomplete

/-- A byte at the start of a sequence.  The ranges of the second byte exclude
overlong forms, surrogates and numbers that are no code points. -/
def first (byte : Nat) : Step :=
  if byte < 0x80 then ([some (Char.ofNat byte)], none)
  else if byte < 0xC2 then ([none], none)
  else if byte < 0xE0 then ([], some ⟨byte - 0xC0, 1, 0x80, 0xBF⟩)
  else if byte = 0xE0 then ([], some ⟨0, 2, 0xA0, 0xBF⟩)
  else if byte = 0xED then ([], some ⟨0xD, 2, 0x80, 0x9F⟩)
  else if byte < 0xF0 then ([], some ⟨byte - 0xE0, 2, 0x80, 0xBF⟩)
  else if byte = 0xF0 then ([], some ⟨0, 3, 0x90, 0xBF⟩)
  else if byte < 0xF4 then ([], some ⟨byte - 0xF0, 3, 0x80, 0xBF⟩)
  else if byte = 0xF4 then ([], some ⟨4, 3, 0x80, 0x8F⟩)
  else ([none], none)

/-- A byte behind an incomplete sequence.  One that does not continue it ends
it as malformed and starts another. -/
def next (incomplete : Incomplete) (byte : Nat) : Step :=
  if incomplete.low ≤ byte ∧ byte ≤ incomplete.high then
    let bits := incomplete.bits * 0x40 + (byte - 0x80)
    if incomplete.missing = 1 then ([some (Char.ofNat bits)], none)
    else ([], some ⟨bits, incomplete.missing - 1, 0x80, 0xBF⟩)
  else (none :: (first byte).1, (first byte).2)

/-- The characters and malformed sequences of a file, from left to right. -/
def decodeFrom : Option Incomplete → Bytes → List (Option Char)
  | none, [] => []
  | some _, [] => [none]
  | none, byte :: rest => (first byte.toNat).1 ++ decodeFrom (first byte.toNat).2 rest
  | some incomplete, byte :: rest =>
      (next incomplete byte.toNat).1 ++ decodeFrom (next incomplete byte.toNat).2 rest

def decode (bytes : Bytes) : List (Option Char) := decodeFrom none bytes

/-- The text of a well-formed file. -/
def decode? (bytes : Bytes) : Option Text := (decode bytes).mapM id

def encodeChar (c : Char) : Bytes :=
  let n := c.toNat
  if n < 0x80 then [UInt8.ofNat n]
  else if n < 0x800 then [UInt8.ofNat (0xC0 + n / 0x40), UInt8.ofNat (0x80 + n % 0x40)]
  else if n < 0x10000 then
    [UInt8.ofNat (0xE0 + n / 0x1000), UInt8.ofNat (0x80 + n / 0x40 % 0x40),
      UInt8.ofNat (0x80 + n % 0x40)]
  else
    [UInt8.ofNat (0xF0 + n / 0x40000), UInt8.ofNat (0x80 + n / 0x1000 % 0x40),
      UInt8.ofNat (0x80 + n / 0x40 % 0x40), UInt8.ofNat (0x80 + n % 0x40)]

def encode (text : Text) : Bytes := text.flatMap encodeChar

end Utf8

end MessageCatalog
