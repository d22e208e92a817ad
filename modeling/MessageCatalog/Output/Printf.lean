import MessageCatalog.Segment.Basic

/-!
# printf formats

Two of the targets take their values as printf formats.  A placeholder
becomes a specifier `%order$.decimalsconversion`, of which only the percent
sign and the conversion are always there; a percent sign in literal text is
doubled.
-/

namespace MessageCatalog

namespace Printf

/-- The conversion character of a data type.  The targets differ in the one
they use for objects and strings. -/
def conversion (objectConversion : Char) : DataType → Char
  | .integer => 'd'
  | .float => 'f'
  | .string => objectConversion
  | .object => objectConversion

def specifier (objectConversion : Char) (placeholder : Placeholder) : Text :=
  '%' :: (match placeholder.orderIndex with
          | some order => Text.ofNat order ++ ['$']
          | none => [])
    ++ (match placeholder.floatDecimals with
        | some count => '.' :: Text.ofNat count
        | none => [])
    ++ [conversion objectConversion placeholder.dataType]

def escapeChar (c : Char) : Text := if c = '%' then ['%', '%'] else [c]

def escape (text : Text) : Text := Text.escapeWith escapeChar text

def ofSegment (objectConversion : Char) : Segment → Text
  | .text t => escape t
  | .placeholder p => specifier objectConversion p

def ofSegments (objectConversion : Char) (segments : List Segment) : Text :=
  segments.flatMap (ofSegment objectConversion)

end Printf

end MessageCatalog
