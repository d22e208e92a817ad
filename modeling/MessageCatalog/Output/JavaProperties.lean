import MessageCatalog.Output.Item
import MessageCatalog.Output.MessageFormat
import MessageCatalog.Xml.Token

/-!
# Java properties in XML

A properties file holds one `entry` element per entry.  Its values are
message format patterns, and there is no file if one of them has no pattern.
-/

namespace MessageCatalog

namespace JavaProperties

open Xml (Token)

/-- Literal text of a value, as it stands in the file. -/
def escapeValue (text : Text) : Text := Xml.escape (MessageFormat.quote text)

def format? (value : Value) : Option Text := MessageFormat.ofSegments? value.segments

def comment (entry : Entry) : List Token :=
  match entry.note? with
  | some note =>
      [.space "  ", .comment (" ".toList ++ note ++ " ".toList), .space "\n"]
  | none => []

def ofItem? : Item → Option (List Token)
  | .heading name =>
      some [.space "\n  ",
        .comment (" ********** ".toList ++ name ++ " ********** ".toList),
        .space "\n\n"]
  | .entry entry value =>
      (format? value).map fun pattern =>
        comment entry
          ++ .space "  "
            :: Token.element "entry".toList [("key".toList, entry.key)] pattern
          ++ [.space "\n"]

/-- The tokens of a file around those of its items. -/
def page (language : Text) (items : List Token) : List Token :=
  [.declaration, .space "\n",
    .doctype "properties SYSTEM \"http://java.sun.com/dtd/properties.dtd\"".toList,
    .space "\n",
    .comment ("\nJava XML Properties File\nGenerated by Sanat\nLanguage: ".toList
      ++ language ++ "\n".toList),
    .space "\n", .startTag "properties".toList [], .space "\n"]
    ++ items
    ++ [.endTag "properties".toList, .space "\n"]

def document? (catalog : Catalog) (language : Text) : Option (List Token) :=
  ((catalog.items .java language).mapM ofItem?).map fun items => page language items.flatten

def render? (catalog : Catalog) (language : Text) : Option Text :=
  (document? catalog language).map Xml.write

end JavaProperties

end MessageCatalog
