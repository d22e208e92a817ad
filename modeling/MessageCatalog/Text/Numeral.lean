import MessageCatalog.Text.Basic

/-!
# Decimal numerals

The numbers inside a placeholder specifier are decimal numerals with an
optional plus sign, below 2^64.  A text that is no such numeral is refused
with one of three causes; reading goes from left to right and stops at the
first character that settles the matter.
-/

namespace MessageCatalog

inductive NumeralError
  | empty
  | invalidDigit
  | tooLarge
  deriving DecidableEq, Repr

namespace NumeralError

def message : NumeralError → Text
  | empty => "cannot parse integer from empty string".toList
  | invalidDigit => "invalid digit found in string".toList
  | tooLarge => "number too large to fit in target type".toList

end NumeralError

namespace Numeral

/-- Numbers have to lie below this bound, which is 2^64. -/
def bound : Nat := 0x10000000000000000

def digitValue (c : Char) : Nat := c.toNat - '0'.toNat

/-- Appends the digits to the number read so far. -/
def readDigits (value : Nat) : Text → Except NumeralError Nat
  | [] => .ok value
  | c :: rest =>
      if c.isDigit then
        if value * 10 + digitValue c < bound then
          readDigits (value * 10 + digitValue c) rest
        else .error .tooLarge
      else .error .invalidDigit

/-- Reads a numeral; a plus sign needs a digit behind it. -/
def read (text : Text) : Except NumeralError Nat :=
  match text with
  | [] => .error .empty
  | c :: rest =>
      if c = '+' then
        if rest.isEmpty then .error .invalidDigit else readDigits 0 rest
      else readDigits 0 (c :: rest)

end Numeral

end MessageCatalog
