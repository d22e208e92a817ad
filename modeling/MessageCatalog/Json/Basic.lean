import MessageCatalog.Text.Basic

/-!
# JSON values

The structured form of a catalog is a JSON value.  Objects keep their
members in order, and numbers are exact decimal fractions.
-/

namespace MessageCatalog

/-- A JSON value.  The number `number n k` is `n / 10 ^ k`. -/
inductive Json
  | null
  | bool (b : Bool)
  | number (numerator : Int) (places : Nat)
  | string (text : Text)
  | array (items : List Json)
  | object (members : List (Text × Json))
  deriving Inhabited

namespace Json

def ofNat (n : Nat) : Json := number n 0

def toNat? : Json → Option Nat
  | number (.ofNat n) 0 => some n
  | _ => none

def toText? : Json → Option Text
  | string text => some text
  | _ => none

def toArray? : Json → Option (List Json)
  | array items => some items
  | _ => none

/-- The member of a name, the first if there are several. -/
def lookup (name : Text) : List (Text × Json) → Option Json
  | [] => none
  | (other, value) :: rest => if other = name then some value else lookup name rest

/-- The members of a record that may have the given fields.  A record is an
object, or an array of the values in the order of the fields, from which
values may be missing at the end. -/
def toRecord? (fields : List Text) : Json → Option (List (Text × Json))
  | object members => some members
  | array items => if items.length ≤ fields.length then some (fields.zip items) else none
  | _ => none

/-- The name of an alternative without content: a text, or an object whose
only member has that name and holds nothing. -/
def toCase? : Json → Option Text
  | string name => some name
  | object [(name, null)] => some name
  | _ => none

end Json

end MessageCatalog
