import MessageCatalog.Json.Basic

/-!
# Writing JSON

A JSON value is written in one of two layouts: without any white space, or
with every item and every member on a line of its own, indented by two
spaces for each level.  Empty arrays and objects are two brackets in both.
-/

namespace MessageCatalog

namespace Json

def hexDigit (n : Nat) : Char := Nat.digitChar (n % 16)

/-- A character of a string.  Control characters without a short form are
written by number. -/
def escapeChar (c : Char) : Text :=
  if c = '"' then "\\\"".toList
  else if c = '\\' then "\\\\".toList
  else if c = '\n' then "\\n".toList
  else if c = '\r' then "\\r".toList
  else if c = '\t' then "\\t".toList
  else if c = '\x08' then "\\b".toList
  else if c = '\x0c' then "\\f".toList
  else if c.toNat < 0x20 then
    "\\u00".toList ++ [hexDigit (c.toNat / 16), hexDigit c.toNat]
  else [c]

def quote (text : Text) : Text := '"' :: Text.escapeWith escapeChar text ++ ['"']

/-- The digits of a number, with a decimal point if it has places. -/
def writeNumber (numerator : Int) (places : Nat) : Text :=
  let digits := Text.ofNat numerator.natAbs
  let padded := List.replicate (places + 1 - digits.length) '0' ++ digits
  let whole := padded.take (padded.length - places)
  (if numerator < 0 then ['-'] else [])
    ++ (if places = 0 then whole
        else whole ++ '.' :: padded.drop (padded.length - places))

/-- How lines are broken: not at all, or with the current indentation. -/
inductive Layout
  | compact
  | indented (level : Nat)

namespace Layout

def inner : Layout → Layout
  | compact => compact
  | indented level => indented (level + 1)

def newline : Layout → Text
  | compact => []
  | indented level => '\n' :: List.replicate (2 * level) ' '

/-- What stands between a name and its value. -/
def colon : Layout → Text
  | compact => [':']
  | indented _ => [':', ' ']

def bracketed (layout : Layout) (opening closing : Char) (items : List Text) : Text :=
  match items with
  | [] => [opening, closing]
  | items =>
      opening :: layout.inner.newline
        ++ Text.join (',' :: layout.inner.newline) items
        ++ layout.newline ++ [closing]

end Layout

mutual

def write (layout : Layout) : Json → Text
  | null => "null".toList
  | bool true => "true".toList
  | bool false => "false".toList
  | number numerator places => writeNumber numerator places
  | string text => quote text
  | array items => layout.bracketed '[' ']' (writeItems layout.inner items)
  | object members => layout.bracketed '\x7b' '\x7d' (writeMembers layout.inner members)

def writeItems (layout : Layout) : List Json → List Text
  | [] => []
  | item :: rest => write layout item :: writeItems layout rest

def writeMembers (layout : Layout) : List (Text × Json) → List Text
  | [] => []
  | (name, value) :: rest =>
      (quote name ++ layout.colon ++ write layout value) :: writeMembers layout rest

end

/-- A value without white space. -/
def compact (value : Json) : Text := write .compact value

/-- A value with one item or member to a line. -/
def pretty (value : Json) : Text := write (.indented 0) value

end Json

end MessageCatalog
