import MessageCatalog.Output.Item
import Mathlib.Data.List.Forall2

/-!
# What is listed

The rules for the items of a resource file, in the words of an author: which value of
an entry is shown, which entries of a section are listed, and where a heading stands.
None of these rules says how to find the items.  But they leave no choice, neither
for an entry nor for a section, and so they describe the items of a catalog
completely.
-/

namespace MessageCatalog

/-- The value is the first one of the entry in the language, and the entry is meant
for the platform. -/
structure Entry.Shows (platform : Platform) (language : Text) (entry : Entry)
    (value : Value) : Prop where
  onPlatform : entry.platforms = .empty ∨ entry.platforms.contains platform = true
  inLanguage : value.language = language
  first : ∃ before after, entry.values = before ++ value :: after ∧
    ∀ other ∈ before, other.language ≠ language

/-- The items of entries: an entry that shows a value has one item, any other entry
has none. -/
inductive Entry.Lists (platform : Platform) (language : Text) :
    List Entry → List Item → Prop
  | nil : Lists platform language [] []
  | listed {entry : Entry} {value : Value} {entries : List Entry} {items : List Item}
      (hvalue : entry.Shows platform language value)
      (hrest : Lists platform language entries items) :
      Lists platform language (entry :: entries) (.entry entry value :: items)
  | hidden {entry : Entry} {entries : List Entry} {items : List Item}
      (hvalue : ∀ value, ¬ entry.Shows platform language value)
      (hrest : Lists platform language entries items) :
      Lists platform language (entry :: entries) items

/-- The items of a section: its heading stands right in front of the first listed
entry, if the section has a name and lists any entry, and nowhere else. -/
inductive Section.Lists (platform : Platform) (language : Text) (parent : Section) :
    List Item → Prop
  | nothing (hentries : Entry.Lists platform language parent.entries []) :
      Lists platform language parent []
  | unnamed {first : Item} {rest : List Item} (hname : parent.name = [])
      (hentries : Entry.Lists platform language parent.entries (first :: rest)) :
      Lists platform language parent (first :: rest)
  | named {first : Item} {rest : List Item} (hname : parent.name ≠ [])
      (hentries : Entry.Lists platform language parent.entries (first :: rest)) :
      Lists platform language parent (.heading parent.name :: first :: rest)

variable {platform : Platform} {language : Text}

namespace Entry

theorem isFor_eq_true_iff (entry : Entry) :
    entry.isFor platform = true ↔
      entry.platforms = .empty ∨ entry.platforms.contains platform = true := by
  unfold isFor PlatformSet.isEmpty
  rw [Bool.or_eq_true, decide_eq_true_eq]

theorem valueFor?_eq_some_iff (entry : Entry) (value : Value) :
    entry.valueFor? language = some value ↔
      value.language = language ∧ ∃ before after, entry.values = before ++ value :: after ∧
        ∀ other ∈ before, other.language ≠ language := by
  unfold valueFor?
  rw [List.find?_eq_some_iff_append]
  simp

theorem shows_iff (entry : Entry) (value : Value) :
    entry.Shows platform language value ↔
      entry.isFor platform = true ∧ entry.valueFor? language = some value := by
  rw [isFor_eq_true_iff, valueFor?_eq_some_iff]
  constructor
  · rintro ⟨hplatforms, hlanguage, hfirst⟩
    exact ⟨hplatforms, hlanguage, hfirst⟩
  · rintro ⟨hplatforms, hlanguage, hfirst⟩
    exact ⟨hplatforms, hlanguage, hfirst⟩

theorem item?_of_shows {entry : Entry} {value : Value}
    (hvalue : entry.Shows platform language value) :
    entry.item? platform language = some (.entry entry value) := by
  obtain ⟨hplatform, hfirst⟩ := (shows_iff entry value).mp hvalue
  rw [item?, if_pos hplatform, hfirst, Option.map_some]

theorem item?_of_not_shows {entry : Entry}
    (hvalue : ∀ value, ¬ entry.Shows platform language value) :
    entry.item? platform language = none := by
  unfold item?
  by_cases hplatform : entry.isFor platform = true
  · cases hfirst : entry.valueFor? language with
    | none => rw [if_pos hplatform, Option.map_none]
    | some value => exact absurd ((shows_iff entry value).mpr ⟨hplatform, hfirst⟩) (hvalue value)
  · rw [if_neg hplatform]

theorem lists_filterMap_item? (entries : List Entry) :
    Lists platform language entries (entries.filterMap (·.item? platform language)) := by
  induction entries with
  | nil => exact .nil
  | cons entry entries ih =>
      by_cases hvalue : ∃ value, entry.Shows platform language value
      · obtain ⟨value, hvalue⟩ := hvalue
        rw [List.filterMap_cons, item?_of_shows hvalue]
        exact .listed hvalue ih
      · have hnone : ∀ value, ¬ entry.Shows platform language value := not_exists.mp hvalue
        rw [List.filterMap_cons, item?_of_not_shows hnone]
        exact .hidden hnone ih

theorem lists_iff {entries : List Entry} {items : List Item} :
    Lists platform language entries items ↔
      items = entries.filterMap (·.item? platform language) := by
  constructor
  · intro hitems
    induction hitems with
    | nil => rfl
    | listed hvalue _ ih => rw [List.filterMap_cons, item?_of_shows hvalue, ih]
    | hidden hvalue _ ih => rw [List.filterMap_cons, item?_of_not_shows hvalue, ih]
  · rintro rfl
    exact lists_filterMap_item? entries

end Entry

namespace Section

theorem itemsFrom_true (name : Text) (entries : List Entry) :
    itemsFrom name platform language true entries =
      entries.filterMap (·.item? platform language) := by
  induction entries with
  | nil => rfl
  | cons entry rest ih =>
      rw [itemsFrom, List.filterMap_cons]
      cases entry.item? platform language with
      | none => exact ih
      | some item => exact congrArg (item :: ·) ih

/-- The heading is still to be written until there is an item. -/
theorem itemsFrom_false (name : Text) (entries : List Entry) :
    itemsFrom name platform language false entries =
      if (entries.filterMap (·.item? platform language)).isEmpty then []
      else .heading name :: entries.filterMap (·.item? platform language) := by
  induction entries with
  | nil => rfl
  | cons entry rest ih =>
      rw [itemsFrom, List.filterMap_cons]
      cases entry.item? platform language with
      | none => exact ih
      | some item =>
          dsimp only
          rw [itemsFrom_true]
          rfl

theorem items_eq (parent : Section) (platform : Platform) (language : Text) :
    parent.items platform language =
      if parent.name.isEmpty || (parent.entries.filterMap (·.item? platform language)).isEmpty
      then parent.entries.filterMap (·.item? platform language)
      else .heading parent.name :: parent.entries.filterMap (·.item? platform language) := by
  unfold items
  cases hname : parent.name.isEmpty with
  | true => rw [itemsFrom_true, Bool.true_or, if_pos rfl]
  | false =>
      rw [itemsFrom_false, Bool.false_or]
      split
      · next hempty => exact (List.isEmpty_iff.mp hempty).symm
      · rfl

theorem items_of_lists_nil {parent : Section}
    (hentries : Entry.Lists platform language parent.entries []) :
    parent.items platform language = [] := by
  rw [items_eq, ← Entry.lists_iff.mp hentries]
  simp

theorem items_of_lists_cons {parent : Section} {first : Item} {rest : List Item}
    (hentries : Entry.Lists platform language parent.entries (first :: rest)) :
    parent.items platform language =
      if parent.name = [] then first :: rest
      else .heading parent.name :: first :: rest := by
  rw [items_eq, ← Entry.lists_iff.mp hentries]
  simp

theorem lists_items (parent : Section) :
    parent.Lists platform language (parent.items platform language) := by
  have hentries : Entry.Lists platform language parent.entries
      (parent.entries.filterMap (·.item? platform language)) :=
    Entry.lists_filterMap_item? parent.entries
  cases hlisted : parent.entries.filterMap (·.item? platform language) with
  | nil =>
      rw [hlisted] at hentries
      rw [items_of_lists_nil hentries]
      exact .nothing hentries
  | cons first rest =>
      rw [hlisted] at hentries
      rw [items_of_lists_cons hentries]
      by_cases hname : parent.name = []
      · rw [if_pos hname]
        exact .unnamed hname hentries
      · rw [if_neg hname]
        exact .named hname hentries

theorem lists_iff {parent : Section} {items : List Item} :
    parent.Lists platform language items ↔ items = parent.items platform language := by
  constructor
  · intro hitems
    cases hitems with
    | nothing hentries => rw [items_of_lists_nil hentries]
    | unnamed hname hentries => rw [items_of_lists_cons hentries, if_pos hname]
    | named hname hentries => rw [items_of_lists_cons hentries, if_neg hname]
  · rintro rfl
    exact lists_items parent

end Section

namespace Catalog

theorem flatten_of_forall₂_lists {sections : List Section} {groups : List (List Item)}
    (hgroups : List.Forall₂ (Section.Lists platform language) sections groups) :
    groups.flatten = sections.flatMap (·.items platform language) := by
  induction hgroups with
  | nil => rfl
  | cons hgroup _ ih =>
      rw [List.flatten_cons, List.flatMap_cons, ih, Section.lists_iff.mp hgroup]

theorem forall₂_lists_items (catalog : Catalog) (platform : Platform) (language : Text) :
    List.Forall₂ (Section.Lists platform language) catalog.sections
      (catalog.sections.map (·.items platform language)) := by
  rw [List.forall₂_map_right_iff, List.forall₂_same]
  intro parent _
  exact Section.lists_items parent

/-- The items of a catalog are those of its sections one after the other, and by the
rules for sections and entries there is one list of items only. -/
theorem eq_items_iff (catalog : Catalog) (platform : Platform) (language : Text)
    (items : List Item) :
    items = catalog.items platform language ↔
      ∃ groups : List (List Item), items = groups.flatten ∧
        List.Forall₂ (Section.Lists platform language) catalog.sections groups := by
  constructor
  · rintro rfl
    exact ⟨_, rfl, forall₂_lists_items catalog platform language⟩
  · rintro ⟨groups, rfl, hgroups⟩
    exact flatten_of_forall₂_lists hgroups

end Catalog

end MessageCatalog
