import MessageCatalog.Output.Format
import MessageCatalog.Proofs.Output.Items

/-!
# What a resource file depends on

A file for one platform and one language shows certain parts of a catalog: the
key, the note and the segments of one value of every listed entry, and the names
of the sections with such entries.  The rest of the catalog is hidden.  It has no
influence on the file, wherever it stands among the parts that are shown.

The file is written item by item, and each item is written as if its entry had
only the parts that are shown.  So the file is a function of these parts, and two
catalogs that agree in them have the same file.
-/

namespace MessageCatalog

/-- What is shown of an entry.  An empty comment counts as none. -/
structure VisibleEntry where
  key : Text
  note : Option Text
  segments : List Segment
  deriving DecidableEq

namespace VisibleEntry

/-- The item of an entry that has no other parts. -/
def item (entry : VisibleEntry) : Item :=
  .entry ⟨entry.key, .empty, [], entry.note, []⟩ ⟨[], entry.segments⟩

end VisibleEntry

/-- What is shown of a section. -/
structure VisibleSection where
  name : Text
  entries : List VisibleEntry
  deriving DecidableEq

namespace VisibleSection

def items (parent : VisibleSection) : List Item :=
  let listed := parent.entries.map VisibleEntry.item
  if parent.name.isEmpty then listed else .heading parent.name :: listed

end VisibleSection

namespace Entry

def visible? (entry : Entry) (platform : Platform) (language : Text) : Option VisibleEntry :=
  if entry.isFor platform then
    (entry.valueFor? language).map fun value => ⟨entry.key, entry.note?, value.segments⟩
  else none

end Entry

namespace Section

def visible (parent : Section) (platform : Platform) (language : Text) : VisibleSection :=
  ⟨parent.name, parent.entries.filterMap (·.visible? platform language)⟩

end Section

namespace Catalog

/-- What is shown of a catalog.  Sections without visible entries are dropped. -/
def visible (catalog : Catalog) (platform : Platform) (language : Text) :
    List VisibleSection :=
  (catalog.sections.map (·.visible platform language)).filter fun parent =>
    !parent.entries.isEmpty

end Catalog

/-! ## Items without hidden parts -/

namespace Item

def shown : Item → Item
  | .heading name => .heading name
  | .entry listed value => (VisibleEntry.mk listed.key listed.note? value.segments).item

end Item

theorem Entry.map_shown_item? (entry : Entry) (platform : Platform) (language : Text) :
    (entry.item? platform language).map Item.shown =
      (entry.visible? platform language).map VisibleEntry.item := by
  unfold Entry.item? Entry.visible?
  by_cases hplatform : entry.isFor platform = true
  · rw [if_pos hplatform, if_pos hplatform]
    cases entry.valueFor? language <;> rfl
  · rw [if_neg hplatform, if_neg hplatform]
    rfl

theorem Section.map_shown_items (parent : Section) (platform : Platform) (language : Text) :
    (parent.items platform language).map Item.shown =
      if (parent.visible platform language).entries.isEmpty then []
      else (parent.visible platform language).items := by
  have hentries : (parent.entries.filterMap (·.item? platform language)).map Item.shown =
      (parent.visible platform language).entries.map VisibleEntry.item := by
    unfold Section.visible
    rw [List.map_filterMap, List.map_filterMap]
    simp only [Entry.map_shown_item?]
  have hempty : (parent.entries.filterMap (·.item? platform language)).isEmpty =
      (parent.visible platform language).entries.isEmpty := by
    rw [← List.isEmpty_map (f := Item.shown), hentries, List.isEmpty_map]
  have hname : (parent.visible platform language).name = parent.name := rfl
  unfold VisibleSection.items
  dsimp only
  rw [Section.items_eq, hempty, hname]
  by_cases hnone : (parent.visible platform language).entries.isEmpty = true
  · rw [if_pos hnone, hnone, Bool.or_true, if_pos rfl, hentries, List.isEmpty_iff.mp hnone]
    rfl
  · rw [if_neg hnone, Bool.eq_false_iff.mpr hnone, Bool.or_false, ← hentries]
    split <;> rfl

theorem Catalog.map_shown_items (catalog : Catalog) (platform : Platform) (language : Text) :
    (catalog.items platform language).map Item.shown =
      (catalog.visible platform language).flatMap VisibleSection.items := by
  unfold Catalog.items Catalog.visible
  induction catalog.sections with
  | nil => rfl
  | cons parent sections ih =>
      rw [List.flatMap_cons, List.map_append, ih, parent.map_shown_items, List.map_cons,
        List.filter_cons]
      by_cases hnone : (parent.visible platform language).entries.isEmpty = true
      · simp [hnone]
      · simp [hnone]

/-! ## Files -/

/-- An entry is written from its key, its note and the segments of its value. -/
def Item.WritesVisible {α : Type} (written : Item → α) : Prop :=
  ∀ (left right : Entry) (value other : Value), left.key = right.key →
    left.note? = right.note? → value.segments = other.segments →
      written (.entry left value) = written (.entry right other)

theorem Item.WritesVisible.shown {α : Type} {written : Item → α}
    (hwritten : WritesVisible written) (item : Item) : written item.shown = written item := by
  cases item with
  | heading name => rfl
  | entry listed value =>
      apply hwritten
      · rfl
      · unfold Entry.note?
        rw [Option.filter_filter]
        simp
      · rfl

theorem AppleStrings.writesVisible_ofItem : Item.WritesVisible ofItem := by
  intro left right value other hkey hnote hsegments
  unfold ofItem comment format
  dsimp only
  rw [hkey, hnote, hsegments]

theorem AndroidStrings.writesVisible_ofItem : Item.WritesVisible ofItem := by
  intro left right value other hkey hnote hsegments
  unfold ofItem comment format
  dsimp only
  rw [hkey, hnote, hsegments]

theorem JavaProperties.writesVisible_ofItem? : Item.WritesVisible ofItem? := by
  intro left right value other hkey hnote hsegments
  unfold ofItem? comment format?
  dsimp only
  rw [hkey, hnote, hsegments]

theorem WindowsResources.writesVisible_ofItem : Item.WritesVisible ofItem := by
  intro left right value other hkey hnote hsegments
  unfold ofItem comment format Value.pieces
  dsimp only
  rw [hkey, hnote, hsegments]

/-- What is written item by item is written from what is visible. -/
theorem Catalog.map_items_eq_visible {α : Type} {written : Item → α}
    (hwritten : Item.WritesVisible written) (catalog : Catalog) (platform : Platform)
    (language : Text) :
    (catalog.items platform language).map written =
      ((catalog.visible platform language).flatMap VisibleSection.items).map written := by
  rw [← Catalog.map_shown_items, List.map_map]
  exact List.map_congr_left fun item _ => (hwritten.shown item).symm

theorem Catalog.map_items_eq_of_visible_eq {α : Type} {written : Item → α}
    (hwritten : Item.WritesVisible written) {left right : Catalog} {platform : Platform}
    {language : Text} (hvisible : left.visible platform language = right.visible platform language) :
    (left.items platform language).map written = (right.items platform language).map written := by
  rw [map_items_eq_visible hwritten, hvisible, map_items_eq_visible hwritten]

namespace Format

/-- The file of a format is written item by item, and of an entry it shows only what is
visible. -/
theorem render?_eq_of_map_items_eq {format : Format} {platform : Platform}
    (hformat : format.platform? = some platform) {left right : Catalog} {language : Text}
    (hitems : ∀ {α : Type} {written : Item → α}, Item.WritesVisible written →
      (left.items platform language).map written = (right.items platform language).map written) :
    format.render? left language = format.render? right language := by
  have hlists : ∀ {α : Type} {written : Item → List α}, Item.WritesVisible written →
      (left.items platform language).flatMap written =
        (right.items platform language).flatMap written := by
    intro α written hwritten
    rw [List.flatMap_def, List.flatMap_def, hitems hwritten]
  cases format with
  | apple =>
      cases hformat
      unfold render? AppleStrings.render
      rw [hlists AppleStrings.writesVisible_ofItem]
  | android =>
      cases hformat
      unfold render? AndroidStrings.render AndroidStrings.document
      rw [hlists AndroidStrings.writesVisible_ofItem]
  | java =>
      cases hformat
      have hmap : ∀ items : List Item,
          items.mapM JavaProperties.ofItem? = (items.map JavaProperties.ofItem?).mapM id :=
        fun items => by rw [List.mapM_map, Function.id_comp]
      unfold render? JavaProperties.render? JavaProperties.document?
      rw [hmap, hmap, hitems JavaProperties.writesVisible_ofItem?]
  | windowsResx =>
      cases hformat
      unfold render? WindowsResources.render WindowsResources.document
      rw [hlists WindowsResources.writesVisible_ofItem]
  | windowsResw =>
      cases hformat
      unfold render? WindowsResources.render WindowsResources.document
      rw [hlists WindowsResources.writesVisible_ofItem]
  | json => cases hformat
  | dump => cases hformat

/-- Two catalogs that agree in what is visible for the platform of a format have the
same file in the language, or neither of them has one. -/
theorem render?_eq_of_visible_eq {format : Format} {platform : Platform}
    (hformat : format.platform? = some platform) {left right : Catalog} {language : Text}
    (hvisible : left.visible platform language = right.visible platform language) :
    format.render? left language = format.render? right language := by
  apply render?_eq_of_map_items_eq hformat
  intro α written hwritten
  exact Catalog.map_items_eq_of_visible_eq hwritten hvisible

/-- A catalog with something hidden in front of what is visible for Apple in English,
inside of it and behind it. -/
def crowdedCatalog : Catalog :=
  ⟨.ofList ["de".toList, "en".toList],
    [⟨"Windows".toList,
        [⟨"W".toList, ⟨false, false, true, false⟩, [], none, [⟨"en".toList, []⟩]⟩]⟩,
      ⟨"Buttons".toList,
        [⟨"German".toList, .empty, [], some "?".toList, [⟨"de".toList, []⟩]⟩,
          ⟨"Ok".toList, ⟨true, false, false, true⟩, ["short".toList], some [],
            [⟨"de".toList, [.text "Ja".toList]⟩, ⟨"en".toList, [.text "OK".toList]⟩,
              ⟨"en".toList, [.text "Fine".toList]⟩]⟩]⟩,
      ⟨"Empty".toList, []⟩]⟩

/-- A catalog with nothing hidden. -/
def plainCatalog : Catalog :=
  ⟨.ofList ["en".toList],
    [⟨"Buttons".toList,
      [⟨"Ok".toList, .empty, [], none, [⟨"en".toList, [.text "OK".toList]⟩]⟩]⟩]⟩

theorem render?_crowdedCatalog :
    Format.apple.platform? = some .apple ∧
      crowdedCatalog.visible .apple "en".toList = plainCatalog.visible .apple "en".toList ∧
      Format.apple.render? crowdedCatalog "en".toList =
        Format.apple.render? plainCatalog "en".toList := by
  have hformat : Format.apple.platform? = some .apple := rfl
  have hvisible : crowdedCatalog.visible .apple "en".toList =
      plainCatalog.visible .apple "en".toList := by decide
  exact ⟨hformat, hvisible, render?_eq_of_visible_eq hformat hvisible⟩

end Format

end MessageCatalog
