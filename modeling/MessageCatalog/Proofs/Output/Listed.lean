import MessageCatalog.Proofs.Output.Items

/-!
# The entries of a resource file

The items of a resource file are, headings apart, the entries that are meant
for its platform and have a value in its language, in the order of the catalog.
What a reader of the file makes of the items one by one is therefore a list with
one member for each of these entries.  The rules for what is listed determine this
list too, and so it can be spoken of without telling how it is found.
-/

namespace MessageCatalog

namespace Entry

/-- An entry with its value in a language, unless the entry is restricted to
other platforms or has no such value. -/
def listed? (entry : Entry) (platform : Platform) (language : Text) : Option (Entry × Value) :=
  if entry.isFor platform then (entry.valueFor? language).map fun value => (entry, value) else none

end Entry

namespace Catalog

def listed (catalog : Catalog) (platform : Platform) (language : Text) : List (Entry × Value) :=
  catalog.entries.filterMap (·.listed? platform language)

/-- By the rules for entries these are the ones that are listed, each with the value that it
shows. -/
def Lists (platform : Platform) (language : Text) (catalog : Catalog)
    (listed : List (Entry × Value)) : Prop :=
  Entry.Lists platform language catalog.entries
    (listed.map fun shown => .entry shown.1 shown.2)

end Catalog

namespace Item

def entry? : Item → Option (Entry × Value)
  | .heading _ => none
  | .entry listed value => some (listed, value)

end Item

theorem Entry.bind_item?_entry? (entry : Entry) (platform : Platform) (language : Text) :
    (entry.item? platform language).bind Item.entry? = entry.listed? platform language := by
  unfold Entry.item? Entry.listed?
  by_cases hplatform : entry.isFor platform = true
  · rw [if_pos hplatform, if_pos hplatform]
    cases entry.valueFor? language <;> rfl
  · rw [if_neg hplatform, if_neg hplatform]
    rfl

theorem Entry.map_item_listed? (entry : Entry) (platform : Platform) (language : Text) :
    (entry.listed? platform language).map (fun shown => Item.entry shown.1 shown.2) =
      entry.item? platform language := by
  unfold Entry.item? Entry.listed?
  split
  · cases entry.valueFor? language <;> rfl
  · rfl

theorem Section.filterMap_entry?_items (parent : Section) (platform : Platform)
    (language : Text) :
    (parent.items platform language).filterMap Item.entry? =
      parent.entries.filterMap (·.listed? platform language) := by
  have hentries : (parent.entries.filterMap (·.item? platform language)).filterMap Item.entry? =
      parent.entries.filterMap (·.listed? platform language) := by
    simp only [List.filterMap_filterMap, Entry.bind_item?_entry?]
  rw [Section.items_eq]
  split
  · exact hentries
  · rw [List.filterMap_cons]
    exact hentries

namespace Catalog

/-- There is one list of listed entries only. -/
theorem lists_iff {platform : Platform} {language : Text} {catalog : Catalog}
    {shown : List (Entry × Value)} :
    catalog.Lists platform language shown ↔ shown = catalog.listed platform language := by
  have hinjective : Function.Injective fun shown : Entry × Value =>
      Item.entry shown.1 shown.2 := by
    rintro ⟨left, value⟩ ⟨right, other⟩ hitem
    obtain ⟨hentry, hvalue⟩ := Item.entry.inj hitem
    exact Prod.ext hentry hvalue
  have hitems : catalog.entries.filterMap (·.item? platform language) =
      (catalog.listed platform language).map fun shown => Item.entry shown.1 shown.2 := by
    rw [listed, List.map_filterMap]
    simp only [Entry.map_item_listed?]
  rw [Lists, Entry.lists_iff, hitems, (List.map_injective_iff.mpr hinjective).eq_iff]

theorem lists_listed (catalog : Catalog) (platform : Platform) (language : Text) :
    catalog.Lists platform language (catalog.listed platform language) := lists_iff.mpr rfl

theorem filterMap_entry?_items (catalog : Catalog) (platform : Platform) (language : Text) :
    (catalog.items platform language).filterMap Item.entry? =
      catalog.listed platform language := by
  simp only [items, listed, entries, List.filterMap_flatMap, Section.filterMap_entry?_items]

/-- What is found in the items, if an entry with its value gives one thing and a
heading gives nothing. -/
theorem flatMap_items {α : Type} {found : Item → List α} {view : Entry × Value → α}
    (hfound : ∀ item, found item = (item.entry?.map view).toList)
    (catalog : Catalog) (platform : Platform) (language : Text) :
    (catalog.items platform language).flatMap found =
      (catalog.listed platform language).map view := by
  have hitems : (catalog.items platform language).flatMap found =
      (catalog.items platform language).filterMap fun item => item.entry?.map view := by
    rw [List.filterMap_eq_flatMap_toList]
    exact List.flatMap_congr fun item _ => hfound item
  rw [hitems, ← filterMap_entry?_items, List.map_filterMap]

end Catalog

end MessageCatalog
