import MessageCatalog.Text.Utf8

/-!
# UTF-16

A file in UTF-16 is a sequence of units of two bytes, in either order.
Characters beyond the first 2^16 are pairs of units, the surrogates.
-/

namespace MessageCatalog

namespace Utf16

inductive ByteOrder
  | little
  | big
  deriving DecidableEq, Repr

/-- A unit from its bytes as they follow each other. -/
def ByteOrder.unit : ByteOrder → UInt8 → UInt8 → Nat
  | .little, low, high => high.toNat * 0x100 + low.toNat
  | .big, high, low => high.toNat * 0x100 + low.toNat

def isHigh (unit : Nat) : Bool := 0xD800 ≤ unit && unit < 0xDC00

def isLow (unit : Nat) : Bool := 0xDC00 ≤ unit && unit < 0xE000

def pair (high low : Nat) : Char :=
  Char.ofNat (0x10000 + (high - 0xD800) * 0x400 + (low - 0xDC00))

/-- A unit that no first half precedes. -/
def first (unit : Nat) : List (Option Char) × Option Nat :=
  if isHigh unit then ([], some unit)
  else if isLow unit then ([none], none)
  else ([some (Char.ofNat unit)], none)

/-- A unit behind the first half of a pair. -/
def next (high unit : Nat) : List (Option Char) × Option Nat :=
  if isLow unit then ([some (pair high unit)], none)
  else (none :: (first unit).1, (first unit).2)

/-- The characters and malformed sequences of a file, `none` being a malformed
one.  What is left open at the end is malformed. -/
def decodeFrom (order : ByteOrder) : Option Nat → Bytes → List (Option Char)
  | none, [] => []
  | some _, [] => [none]
  | _, [_] => [none]
  | none, a :: b :: rest =>
      (first (order.unit a b)).1 ++ decodeFrom order (first (order.unit a b)).2 rest
  | some high, a :: b :: rest =>
      (next high (order.unit a b)).1 ++ decodeFrom order (next high (order.unit a b)).2 rest

def decode (order : ByteOrder) (bytes : Bytes) : List (Option Char) :=
  decodeFrom order none bytes

def ByteOrder.bytes (unit : Nat) : ByteOrder → Bytes
  | .little => [UInt8.ofNat (unit % 0x100), UInt8.ofNat (unit / 0x100)]
  | .big => [UInt8.ofNat (unit / 0x100), UInt8.ofNat (unit % 0x100)]

def encodeChar (order : ByteOrder) (c : Char) : Bytes :=
  let n := c.toNat
  if n < 0x10000 then order.bytes n
  else
    order.bytes (0xD800 + (n - 0x10000) / 0x400)
      ++ order.bytes (0xDC00 + (n - 0x10000) % 0x400)

def encode (order : ByteOrder) (text : Text) : Bytes := text.flatMap (encodeChar order)

end Utf16

end MessageCatalog
