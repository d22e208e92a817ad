import MessageCatalog.Text.Basic

/-!
# Placeholders

A placeholder marks the place of an argument in a localized value.  It says
what kind of data is put there, may name its position explicitly, and, for
floating-point data, may ask for a number of decimals.
-/

namespace MessageCatalog

inductive DataType
  | object
  | integer
  | string
  | float
  deriving DecidableEq, Repr

namespace DataType

def name : DataType → Text
  | object => "object".toList
  | integer => "integer".toList
  | string => "string".toList
  | float => "float".toList

def all : List DataType := [object, integer, string, float]

def ofName? (text : Text) : Option DataType := all.find? fun type => type.name = text

theorem ofName?_name (type : DataType) : ofName? type.name = some type := by
  cases type <;> decide

end DataType

/-- A substitution point that is independent of any target platform. -/
structure Placeholder where
  dataType : DataType
  /-- The one-based position given by the author. -/
  orderIndex : Option Nat
  /-- Meaningful for floating-point data only. -/
  decimalCount : Option Nat
  deriving DecidableEq, Repr

namespace Placeholder

/-- The number of decimals, where it applies. -/
def floatDecimals (placeholder : Placeholder) : Option Nat :=
  match placeholder.dataType with
  | .float => placeholder.decimalCount
  | _ => none

/-- The zero-based index of the argument: the author's position if there is
one, the rank among the placeholders of the value otherwise. -/
def effectiveIndex (placeholder : Placeholder) (rank : Nat) : Nat :=
  match placeholder.orderIndex with
  | some order => order - 1
  | none => rank

/-- A short description, such as `<float>, 2 decimals, order #1`. -/
def describe (placeholder : Placeholder) : Text :=
  "<".toList ++ placeholder.dataType.name ++ ">".toList
    ++ (match placeholder.floatDecimals with
        | some count => ", ".toList ++ Text.ofNat count ++ " decimals".toList
        | none => [])
    ++ (match placeholder.orderIndex with
        | some order => ", order #".toList ++ Text.ofNat order
        | none => [])

end Placeholder

end MessageCatalog
