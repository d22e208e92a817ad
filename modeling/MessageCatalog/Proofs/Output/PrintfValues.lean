import MessageCatalog.Output.AndroidStrings
import MessageCatalog.Proofs.AppleStrings.Reading
import MessageCatalog.Proofs.Printf.Reading
import MessageCatalog.Proofs.Xml.Entity

/-!
# Values as printf formats

Apple strings and Android resources hold their values as printf formats, the
ones behind backslash escapes and the others behind entities.  With these undone
a value is read as its gathered segments: every text unchanged, and every
placeholder with its position, its decimals and its conversion.
-/

namespace MessageCatalog

namespace AppleStrings

/-- What a quoted string between two quotation marks stands for. -/
def unquote? (quoted : Text) : Option Text :=
  match readQuoted? (quoted ++ ['"']) with
  | some (content, []) => some content
  | _ => none

theorem unquote?_quote (text : Text) : unquote? (quote text) = some text := by
  unfold unquote?
  rw [readQuoted?_quote_append]

end AppleStrings

namespace Value

open Printf (Part)

/-- Both printf formats of a value are read without ambiguity. -/
theorem read?_printfFormats (value : Value) :
    (AppleStrings.unquote? (AppleStrings.quote (AppleStrings.format value))).bind Printf.read? =
        some ((Segment.gather value.segments).map (Part.ofSegment '@')) ∧
      (Xml.unescape? (Xml.escape (AndroidStrings.format value))).bind Printf.read? =
        some ((Segment.gather value.segments).map (Part.ofSegment 's')) := by
  constructor
  · rw [AppleStrings.unquote?_quote, Option.bind_some]
    exact Printf.read?_ofSegments (by decide) value.segments
  · rw [Xml.unescape?_escape, Option.bind_some]
    exact Printf.read?_ofSegments (by decide) value.segments

end Value

end MessageCatalog
