import MessageCatalog.Proofs.Catalog.LanguageSet
import MessageCatalog.Proofs.Document.Step
import MessageCatalog.Proofs.Output.Visibility
import Mathlib.Data.List.Forall2

/-!
# Catalogs up to the order of values

The values of an entry are a list, but a value is only ever looked up by its
language, and then the first one counts.  So the order of values in different
languages does not matter.  Two catalogs agree if they are equal apart from this
order: everything that reads rows into catalogs respects it, and the files for a
platform do not depend on it.
-/

namespace MessageCatalog

/-- The same entry, except that the values may be in another order as long as every
language has the same first value. -/
structure Entry.Agrees (left right : Entry) : Prop where
  key : left.key = right.key
  platforms : left.platforms = right.platforms
  tags : left.tags = right.tags
  comment : left.comment = right.comment
  valueFor? : ∀ language, left.valueFor? language = right.valueFor? language

structure Section.Agrees (left right : Section) : Prop where
  name : left.name = right.name
  entries : List.Forall₂ Entry.Agrees left.entries right.entries

structure Catalog.Agrees (left right : Catalog) : Prop where
  languages : left.languages = right.languages
  sections : List.Forall₂ Section.Agrees left.sections right.sections

section Lists

variable {α β : Type} {related : α → α → Prop}

theorem forall₂_mapLast {other : α → α → Prop} {change change' : α → α}
    {left right : List α} (hlists : List.Forall₂ related left right)
    (hother : ∀ x y, related x y → other x y)
    (hchange : ∀ x y, related x y → other (change x) (change' y)) :
    List.Forall₂ other (mapLast change left) (mapLast change' right) := by
  induction hlists with
  | nil => exact .nil
  | cons hfirst hrest ih =>
      cases hrest with
      | nil => exact .cons (hchange _ _ hfirst) .nil
      | cons hnext hmore => exact .cons (hother _ _ hfirst) ih

theorem filterMap_eq_of_forall₂ {view : α → Option β} {left right : List α}
    (hlists : List.Forall₂ related left right)
    (hview : ∀ x y, related x y → view x = view y) :
    left.filterMap view = right.filterMap view := by
  induction hlists with
  | nil => rfl
  | cons hfirst _ ih => rw [List.filterMap_cons, List.filterMap_cons, hview _ _ hfirst, ih]

theorem map_eq_of_forall₂ {view : α → β} {left right : List α}
    (hlists : List.Forall₂ related left right)
    (hview : ∀ x y, related x y → view x = view y) : left.map view = right.map view := by
  rw [← List.filterMap_eq_map]
  apply filterMap_eq_of_forall₂ hlists
  intro x y hrelated
  exact congrArg some (hview x y hrelated)

theorem mapLast_mapLast (first second : α → α) (list : List α) :
    mapLast second (mapLast first list) = mapLast (fun x => second (first x)) list := by
  rcases List.eq_nil_or_concat' list with rfl | ⟨front, last, rfl⟩
  · rfl
  · rw [mapLast_append_singleton, mapLast_append_singleton, mapLast_append_singleton]

end Lists

/-! ## Entries -/

namespace Entry

theorem agrees_refl (entry : Entry) : entry.Agrees entry := ⟨rfl, rfl, rfl, rfl, fun _ => rfl⟩

theorem valueFor?_addValue (entry : Entry) (value : Value) (language : Text) :
    (entry.addValue value).valueFor? language =
      (entry.valueFor? language).or (if value.language = language then some value else none) := by
  unfold valueFor? addValue
  rw [List.find?_append, List.find?_singleton]
  simp

theorem Agrees.addValue {left right : Entry} (hagrees : left.Agrees right) (value : Value) :
    (left.addValue value).Agrees (right.addValue value) := by
  refine ⟨hagrees.key, hagrees.platforms, hagrees.tags, hagrees.comment, ?_⟩
  intro language
  rw [valueFor?_addValue, valueFor?_addValue, hagrees.valueFor?]

theorem Agrees.withField {left right : Entry} (hagrees : left.Agrees right)
    (preprocessor : Preprocessor) (name text : Text) :
    (left.withField preprocessor name text).Agrees
      (right.withField preprocessor name text) := by
  unfold Entry.withField
  cases FieldKind.ofName name with
  | platforms => exact ⟨hagrees.key, rfl, hagrees.tags, hagrees.comment, hagrees.valueFor?⟩
  | tags => exact ⟨hagrees.key, hagrees.platforms, rfl, hagrees.comment, hagrees.valueFor?⟩
  | comment => exact ⟨hagrees.key, hagrees.platforms, hagrees.tags, rfl, hagrees.valueFor?⟩
  | value => exact hagrees.addValue _

/-- Values in different languages are looked up independently of one another. -/
theorem addValue_addValue_agrees (entry : Entry) {first second : Value}
    (hlanguages : first.language ≠ second.language) :
    ((entry.addValue first).addValue second).Agrees ((entry.addValue second).addValue first) := by
  refine ⟨rfl, rfl, rfl, rfl, ?_⟩
  intro language
  rw [valueFor?_addValue, valueFor?_addValue, valueFor?_addValue, valueFor?_addValue,
    Option.or_assoc, Option.or_assoc]
  congr 1
  by_cases hfirst : first.language = language
  · have hsecond : second.language ≠ language := by
      rw [← hfirst]
      exact hlanguages.symm
    rw [if_pos hfirst, if_neg hsecond, Option.or_none, Option.none_or]
  · rw [if_neg hfirst, Option.or_none, Option.none_or]

end Entry

/-- The fields of two names may be given in either order: no two of them are about the
same part of an entry. -/
structure FieldKind.Independent (first second : Text) : Prop where
  names : first ≠ second
  kinds : ofName first = ofName second → ofName first = .value

namespace Entry

/-- Fields of different kinds change different parts of an entry. -/
theorem withField_comm (entry : Entry) (preprocessor : Preprocessor) {first second : Text}
    (hkinds : FieldKind.ofName first ≠ FieldKind.ofName second) (text other : Text) :
    (entry.withField preprocessor first text).withField preprocessor second other =
      (entry.withField preprocessor second other).withField preprocessor first text := by
  unfold withField
  cases hfirst : FieldKind.ofName first <;> cases hsecond : FieldKind.ofName second <;>
    first
    | rfl
    | exact absurd (hfirst.trans hsecond.symm) hkinds

theorem withField_exchange (entry : Entry) (preprocessor : Preprocessor) {first second : Text}
    (hnames : FieldKind.Independent first second) (text other : Text) :
    ((entry.withField preprocessor first text).withField preprocessor second other).Agrees
      ((entry.withField preprocessor second other).withField preprocessor first text) := by
  by_cases hsame : FieldKind.ofName first = FieldKind.ofName second
  · have hfirst : FieldKind.ofName first = .value := hnames.kinds hsame
    have hsecond : FieldKind.ofName second = .value := by rw [← hsame, hfirst]
    simp only [withField, hfirst, hsecond]
    exact addValue_addValue_agrees entry hnames.names
  · rw [withField_comm entry preprocessor hsame]
    exact agrees_refl _

end Entry

/-! ## Sections and catalogs -/

namespace Section

theorem agrees_refl (parent : Section) : parent.Agrees parent :=
  ⟨rfl, List.forall₂_same.mpr fun entry _ => entry.agrees_refl⟩

theorem Agrees.mapLast {left right : Section} (hagrees : left.Agrees right)
    {change : Entry → Entry}
    (hchange : ∀ x y : Entry, x.Agrees y → (change x).Agrees (change y)) :
    Section.Agrees { left with entries := MessageCatalog.mapLast change left.entries }
      { right with entries := MessageCatalog.mapLast change right.entries } :=
  ⟨hagrees.name, forall₂_mapLast hagrees.entries (fun _ _ h => h) hchange⟩

end Section

namespace Catalog

theorem agrees_refl (catalog : Catalog) : catalog.Agrees catalog :=
  ⟨rfl, List.forall₂_same.mpr fun parent _ => parent.agrees_refl⟩

variable {left right : Catalog}

theorem Agrees.addSection (hagrees : left.Agrees right) (name : Text) :
    (left.addSection name).Agrees (right.addSection name) :=
  ⟨hagrees.languages,
    List.rel_append hagrees.sections (.cons (Section.agrees_refl ⟨name, []⟩) .nil)⟩

theorem Agrees.addEntry (hagrees : left.Agrees right) (entry : Entry) :
    (left.addEntry entry).Agrees (right.addEntry entry) := by
  refine ⟨hagrees.languages, forall₂_mapLast hagrees.sections (fun _ _ h => h) ?_⟩
  intro x y hsections
  exact ⟨hsections.name, List.rel_append hsections.entries (.cons entry.agrees_refl .nil)⟩

theorem Agrees.mapLastEntry (hagrees : left.Agrees right) {change : Entry → Entry}
    (hchange : ∀ x y : Entry, x.Agrees y → (change x).Agrees (change y)) :
    (left.mapLastEntry change).Agrees (right.mapLastEntry change) :=
  ⟨hagrees.languages, forall₂_mapLast hagrees.sections (fun _ _ h => h)
    fun _ _ hsections => hsections.mapLast hchange⟩

theorem Agrees.addLanguage (hagrees : left.Agrees right) (language : Text) :
    (left.addLanguage language).Agrees (right.addLanguage language) :=
  ⟨congrArg (·.insert language) hagrees.languages, hagrees.sections⟩

theorem Agrees.withField (hagrees : left.Agrees right) (preprocessor : Preprocessor)
    (name text : Text) :
    (left.withField preprocessor name text).Agrees
      (right.withField preprocessor name text) := by
  have hchanged := hagrees.mapLastEntry
    fun x y hentries => Entry.Agrees.withField hentries preprocessor name text
  unfold Catalog.withField
  dsimp only
  split
  · exact hchanged.addLanguage name
  · exact hchanged

theorem Agrees.afterRow (hagrees : left.Agrees right) (preprocessor : Preprocessor)
    (inBlock : Bool) (row : Row) :
    (left.afterRow preprocessor inBlock row).Agrees
      (right.afterRow preprocessor inBlock row) := by
  cases row with
  | heading name => exact hagrees.addSection name
  | key key =>
      have hempty : left.sections.isEmpty = right.sections.isEmpty := by
        rw [← List.isEmpty_map (f := Section.name), map_eq_of_forall₂ hagrees.sections
          fun _ _ hsections => hsections.name, List.isEmpty_map]
      unfold Catalog.afterRow
      dsimp only
      rw [hempty]
      split
      · exact (hagrees.addSection []).addEntry _
      · exact hagrees.addEntry _
  | field name text =>
      cases inBlock with
      | false => exact hagrees
      | true => exact hagrees.withField preprocessor name text
  | skipped => exact hagrees
  | mixedIndentation => exact hagrees
  | unexpectedIndentation width => exact hagrees
  | unindented => exact hagrees
  | noSeparator => exact hagrees

theorem withField_exchange (catalog : Catalog) (preprocessor : Preprocessor)
    {first second : Text} (hnames : FieldKind.Independent first second) (text other : Text) :
    ((catalog.withField preprocessor first text).withField preprocessor second other).Agrees
      ((catalog.withField preprocessor second other).withField preprocessor first text) := by
  constructor
  · simp only [languages_withField]
    split <;> split <;>
      first
      | rfl
      | exact LanguageSet.insert_comm _ _ _
  · simp only [sections_withField, mapLastEntry, mapLast_mapLast]
    apply forall₂_mapLast (List.forall₂_same.mpr fun _ _ => rfl)
    · rintro parent _ rfl
      exact parent.agrees_refl
    · rintro parent _ rfl
      refine ⟨rfl, ?_⟩
      apply forall₂_mapLast (List.forall₂_same.mpr fun _ _ => rfl)
      · rintro entry _ rfl
        exact entry.agrees_refl
      · rintro entry _ rfl
        exact entry.withField_exchange preprocessor hnames text other

end Catalog

/-! ## Files -/

theorem Entry.Agrees.visible? {left right : Entry} (hagrees : left.Agrees right)
    (platform : Platform) (language : Text) :
    left.visible? platform language = right.visible? platform language := by
  unfold Entry.visible? Entry.isFor Entry.note?
  rw [hagrees.key, hagrees.platforms, hagrees.comment, hagrees.valueFor?]

theorem Catalog.Agrees.visible {left right : Catalog} (hagrees : left.Agrees right)
    (platform : Platform) (language : Text) :
    left.visible platform language = right.visible platform language := by
  unfold Catalog.visible
  rw [map_eq_of_forall₂ hagrees.sections]
  intro x y hsections
  unfold Section.visible
  rw [hsections.name, filterMap_eq_of_forall₂ hsections.entries
    fun _ _ hentries => hentries.visible? platform language]

/-- The file for a platform shows only the first value of each entry in its language. -/
theorem Catalog.Agrees.render? {format : Format} {platform : Platform}
    (hformat : format.platform? = some platform) {left right : Catalog}
    (hagrees : left.Agrees right) (language : Text) :
    format.render? left language = format.render? right language := by
  apply Format.render?_eq_of_map_items_eq hformat
  intro α written hwritten
  exact Catalog.map_items_eq_of_visible_eq hwritten (hagrees.visible platform language)

end MessageCatalog
