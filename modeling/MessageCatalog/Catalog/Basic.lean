import MessageCatalog.Catalog.LanguageSet
import MessageCatalog.Catalog.Platform
import MessageCatalog.Segment.Basic

/-!
# Catalogs

A catalog is what a document says: sections in the order of the document,
each with its entries, each entry with its values in one or more languages,
and the set of all languages that occur.
-/

namespace MessageCatalog

structure Value where
  language : Text
  segments : List Segment
  deriving DecidableEq, Repr

structure Entry where
  key : Text
  /-- The empty set stands for every platform. -/
  platforms : PlatformSet
  tags : List Text
  /-- A note that is also written into generated files. -/
  comment : Option Text
  values : List Value
  deriving DecidableEq, Repr

/-- A named group of entries.  The section that a document begins without a
heading has the empty name. -/
structure Section where
  name : Text
  entries : List Entry
  deriving DecidableEq, Repr

structure Catalog where
  languages : LanguageSet
  sections : List Section
  deriving DecidableEq

namespace Value

def pieces (value : Value) : List Piece := Piece.ofSegments 0 value.segments

def placeholders (value : Value) : List (Nat × Placeholder) :=
  value.pieces.filterMap Piece.numbered?

end Value

namespace Entry

/-- An entry about which nothing but the key is known. -/
def new (key : Text) : Entry := ⟨key, .empty, [], none, []⟩

def valueFor? (entry : Entry) (language : Text) : Option Value :=
  entry.values.find? fun value => value.language = language

/-- Whether an entry is meant for a platform. -/
def isFor (entry : Entry) (platform : Platform) : Bool :=
  entry.platforms.isEmpty || entry.platforms.contains platform

def addValue (entry : Entry) (value : Value) : Entry :=
  { entry with values := entry.values ++ [value] }

/-- The comment, if it says anything. -/
def note? (entry : Entry) : Option Text := entry.comment.filter fun note => !note.isEmpty

end Entry

/-- Applies a change to the last element, if there is one. -/
def mapLast {α : Type} (change : α → α) : List α → List α
  | [] => []
  | [last] => [change last]
  | head :: next :: rest => head :: mapLast change (next :: rest)

@[simp] theorem mapLast_append_singleton {α : Type} (change : α → α) (front : List α) (last : α) :
    mapLast change (front ++ [last]) = front ++ [change last] := by
  induction front with
  | nil => rfl
  | cons head rest ih =>
      cases rest with
      | nil => rfl
      | cons next rest => simpa [mapLast] using ih

namespace Section

def addEntry (parent : Section) (entry : Entry) : Section :=
  { parent with entries := parent.entries ++ [entry] }

end Section

namespace Catalog

def empty : Catalog := ⟨.empty, []⟩

def entries (catalog : Catalog) : List Entry := catalog.sections.flatMap Section.entries

def addSection (catalog : Catalog) (name : Text) : Catalog :=
  { catalog with sections := catalog.sections ++ [⟨name, []⟩] }

/-- Appends an entry to the last section, if there is one. -/
def addEntry (catalog : Catalog) (entry : Entry) : Catalog :=
  { catalog with sections := mapLast (·.addEntry entry) catalog.sections }

/-- Changes the last entry of the last section, if there is one. -/
def mapLastEntry (catalog : Catalog) (change : Entry → Entry) : Catalog :=
  { catalog with
    sections := mapLast
      (fun last => { last with entries := mapLast change last.entries })
      catalog.sections }

/-- The last entry of the last section, if there is one. -/
def lastEntry? (catalog : Catalog) : Option Entry :=
  catalog.sections.getLast?.bind fun last => last.entries.getLast?

def addLanguage (catalog : Catalog) (language : Text) : Catalog :=
  { catalog with languages := catalog.languages.insert language }

end Catalog

end MessageCatalog
