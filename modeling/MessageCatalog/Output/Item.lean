import MessageCatalog.Catalog.Basic

/-!
# What a resource file contains

A file for one platform and one language lists the entries that are meant
for the platform and have a value in the language.  A section's heading
stands in front of its first listed entry; a section without a name has no
heading, and one without listed entries leaves no trace.
-/

namespace MessageCatalog

inductive Item
  | heading (name : Text)
  | entry (entry : Entry) (value : Value)
  deriving DecidableEq, Repr

namespace Entry

/-- The item of an entry, if it is listed for the platform and the language. -/
def item? (listed : Entry) (platform : Platform) (language : Text) : Option Item :=
  if listed.isFor platform then (listed.valueFor? language).map (Item.entry listed) else none

end Entry

namespace Section

/-- The items of some entries of a section.  Its heading is written only once, so it
has to be known whether it has been written. -/
def itemsFrom (name : Text) (platform : Platform) (language : Text) :
    Bool → List Entry → List Item
  | _, [] => []
  | headed, entry :: rest =>
      match entry.item? platform language with
      | none => itemsFrom name platform language headed rest
      | some item =>
          if headed then item :: itemsFrom name platform language true rest
          else .heading name :: item :: itemsFrom name platform language true rest

/-- The heading of a section without a name counts as written. -/
def items (parent : Section) (platform : Platform) (language : Text) : List Item :=
  itemsFrom parent.name platform language parent.name.isEmpty parent.entries

end Section

namespace Catalog

def items (catalog : Catalog) (platform : Platform) (language : Text) : List Item :=
  catalog.sections.flatMap (·.items platform language)

end Catalog

end MessageCatalog
