import MessageCatalog.Placeholder.Basic
import MessageCatalog.Text.Numeral

/-!
# Placeholder specifiers

In a value a placeholder is written between braces as
`order:type.decimals`, where only the type character is usual and even that
may be missing.  Reading never fails: an unreadable number counts as zero
and is reported as a problem.
-/

namespace MessageCatalog

namespace DataType

/-- The data type meant by a type character; any other character means an
untyped object. -/
def ofChar (c : Char) : DataType :=
  match c.toLower with
  | 'f' => .float
  | 'd' => .integer
  | 's' => .string
  | _ => .object

end DataType

inductive SpecifierPart
  | orderIndex
  | decimalCount
  deriving DecidableEq, Repr

structure SpecifierProblem where
  part : SpecifierPart
  text : Text
  cause : NumeralError
  deriving DecidableEq, Repr

namespace SpecifierProblem

def message (problem : SpecifierProblem) : Text :=
  "Invalid ".toList
    ++ (match problem.part with
        | .orderIndex => "order index".toList
        | .decimalCount => "decimal count".toList)
    ++ " '".toList ++ problem.text ++ "' in format specifier: ".toList
    ++ problem.cause.message

end SpecifierProblem

namespace Specifier

/-- A number, or zero together with the reason why there is none. -/
def readNumber (part : SpecifierPart) (text : Text) : Nat × List SpecifierProblem :=
  match Numeral.read text with
  | .ok n => (n, [])
  | .error cause => (0, [⟨part, text, cause⟩])

/-- An order index of zero stands for none at all. -/
def orderOf (n : Nat) : Option Nat := if n = 0 then none else some n

/-- The order index written before the first colon, if anything is. -/
def readOrder (text : Text) : Option Nat × List SpecifierProblem :=
  if text.isEmpty then (none, [])
  else (orderOf (readNumber .orderIndex text).1, (readNumber .orderIndex text).2)

/-- The decimal count written after the first point, if anything is. -/
def readDecimals (text : Text) : Option Nat × List SpecifierProblem :=
  match Text.splitFirst? '.' text with
  | none => (none, [])
  | some (_, digits) =>
      if digits.isEmpty then (none, [])
      else
        (some (readNumber .decimalCount digits).1, (readNumber .decimalCount digits).2)

/-- The type character and what follows it.  Only floating-point data has
decimals. -/
def readType (order : Option Nat) (text : Text) : Placeholder × List SpecifierProblem :=
  match text with
  | [] => (⟨.object, order, none⟩, [])
  | c :: rest =>
      match DataType.ofChar c with
      | .float => (⟨.float, order, (readDecimals rest).1⟩, (readDecimals rest).2)
      | type => (⟨type, order, none⟩, [])

/-- Surrounding braces do not belong to the specifier. -/
def stripBraces (body : Text) : Text :=
  Text.dropTrailing (· = '}') (body.dropWhile (· = '{'))

def read (body : Text) : Placeholder × List SpecifierProblem :=
  match Text.splitFirst? ':' (stripBraces body) with
  | none => readType none (stripBraces body)
  | some (order, rest) =>
      ((readType (readOrder order).1 rest).1,
        (readOrder order).2 ++ (readType (readOrder order).1 rest).2)

end Specifier

end MessageCatalog
