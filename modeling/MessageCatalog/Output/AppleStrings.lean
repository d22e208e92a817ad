import MessageCatalog.Output.Item
import MessageCatalog.Output.Printf

/-!
# Apple `.strings` files

A `.strings` file is a list of quoted keys with quoted values, the values
being printf formats with `@` as the conversion of objects:

    /* Comment */
    "Key" = "Value with %1$@ and %2$.2f";
-/

namespace MessageCatalog

namespace AppleStrings

def quoteChar (c : Char) : Text :=
  if c = '"' then ['\\', '"']
  else if c = '\\' then ['\\', '\\']
  else if c = '\n' then ['\\', 'n']
  else [c]

def quote (text : Text) : Text := Text.escapeWith quoteChar text

/-- A key.  Keys are no formats, so a percent sign stays as it is. -/
def escapeKey (key : Text) : Text := quote key

/-- Literal text of a value. -/
def escapeValue (text : Text) : Text := quote (Printf.escape text)

def specifier (placeholder : Placeholder) : Text := Printf.specifier '@' placeholder

def format (value : Value) : Text := Printf.ofSegments '@' value.segments

/-- The text of a comment: what would end it is broken up. -/
def commentSafe : Text → Text
  | [] => []
  | [c] => [c]
  | c :: d :: rest =>
      if c = '*' ∧ d = '/' then '*' :: ' ' :: '/' :: commentSafe rest
      else c :: commentSafe (d :: rest)

def comment (entry : Entry) : Text :=
  match entry.note? with
  | some note => "/* ".toList ++ commentSafe note ++ " */\n".toList
  | none => []

def ofItem : Item → Text
  | .heading name =>
      "\n/********** ".toList ++ commentSafe name ++ " **********/\n\n".toList
  | .entry entry value =>
      comment entry
        ++ "\"".toList ++ escapeKey entry.key ++ "\" = \"".toList
        ++ quote (format value) ++ "\";\n".toList

def preamble (language : Text) : Text :=
  "/**\n * Generated by `Sanat`\n * Language: ".toList ++ commentSafe language
    ++ "\n */\n\n".toList

def render (catalog : Catalog) (language : Text) : Text :=
  preamble language ++ (catalog.items .apple language).flatMap ofItem

end AppleStrings

end MessageCatalog
