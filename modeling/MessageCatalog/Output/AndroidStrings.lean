import MessageCatalog.Output.Item
import MessageCatalog.Output.Printf
import MessageCatalog.Xml.Token

/-!
# Android string resources

A `strings.xml` file holds one `string` element per entry.  Its values are
printf formats with `s` as the conversion of objects.
-/

namespace MessageCatalog

namespace AndroidStrings

open Xml (Token)

def specifier (placeholder : Placeholder) : Text := Printf.specifier 's' placeholder

/-- Literal text of a value, as it stands in the file. -/
def escapeValue (text : Text) : Text := Xml.escape (Printf.escape text)

def format (value : Value) : Text := Printf.ofSegments 's' value.segments

def comment (entry : Entry) : List Token :=
  match entry.note? with
  | some note =>
      [.space "    ", .comment (" ".toList ++ note ++ " ".toList), .space "\n"]
  | none => []

def ofItem : Item → List Token
  | .heading name =>
      [.space "\n    ",
        .comment (" ********** ".toList ++ name ++ " ********** ".toList),
        .space "\n\n"]
  | .entry entry value =>
      comment entry
        ++ .space "    "
          :: Token.element "string".toList [("name".toList, entry.key)] (format value)
        ++ [.space "\n"]

def document (catalog : Catalog) (language : Text) : List Token :=
  [.declaration, .space "\n",
    .comment (" Generated by Sanat. Language: ".toList ++ language ++ " ".toList),
    .space "\n", .startTag "resources".toList [], .space "\n"]
    ++ (catalog.items .android language).flatMap ofItem
    ++ [.endTag "resources".toList, .space "\n"]

def render (catalog : Catalog) (language : Text) : Text :=
  Xml.write (document catalog language)

end AndroidStrings

end MessageCatalog
