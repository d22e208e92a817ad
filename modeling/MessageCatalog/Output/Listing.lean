import MessageCatalog.Catalog.Basic

/-!
# Listings

A listing shows a whole catalog as indented plain text, whatever the
language, to let an author see what became of a document.
-/

namespace MessageCatalog

namespace Listing

def line (label content : Text) : Text := label ++ content ++ ['\n']

def ofSegment : Segment → Text
  | .text t => line "      Text: '".toList (t ++ ['\''])
  | .placeholder p => line "       fmt: ".toList p.describe

def ofValue (value : Value) : Text :=
  line "    Language: ".toList value.language ++ value.segments.flatMap ofSegment

def ofEntry (entry : Entry) : Text :=
  line "  Translation: ".toList entry.key
    ++ entry.platforms.toList.flatMap (fun p => line "    Platform: ".toList p.name)
    ++ (if entry.tags.isEmpty then []
        else line "    Tags: ".toList (Text.join ", ".toList entry.tags))
    ++ (match entry.comment with
        | some comment => line "    Comment: ".toList comment
        | none => [])
    ++ entry.values.flatMap ofValue

def ofSection (part : Section) : Text :=
  line "Section: ".toList part.name ++ part.entries.flatMap ofEntry

def render (catalog : Catalog) : Text :=
  line "Languages: ".toList (Text.join ", ".toList catalog.languages.codes)
    ++ catalog.sections.flatMap ofSection

end Listing

end MessageCatalog
