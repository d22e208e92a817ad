import MessageCatalog.Proofs.Catalog.LanguageSet
import MessageCatalog.Proofs.Document.Line
import MessageCatalog.Proofs.Document.Step
import MessageCatalog.Proofs.List.Blocks

/-!
# The structure of a document

A document consists of sections, a section of entries, and an entry of the
field rows below its key row.  This file reads a list of lines that way: it
cuts the lines at the headings, what lies below a heading at the key rows, and
makes an entry of the fields of each key row.  Lines of any other kind are
passed over wherever they stand.

Reading line by line gives the same catalog.  The induction is on the lines
from the front; it needs only that the structure of a document with one more
line comes out of the structure of the document without it, at the last
section and the last entry, and that a key is open exactly as long as the last
section has an entry.
-/

namespace MessageCatalog

namespace Entry

/-- What the last field of a kind says. -/
def lastField? (kind : FieldKind) (fields : List (Text × Text)) : Option Text :=
  ((fields.filter fun field => FieldKind.ofName field.1 = kind).getLast?).map Prod.snd

/-- The platforms in a list of names, without the unknown ones. -/
def platformsOfList (list : Text) : PlatformSet :=
  .ofList ((Text.listEntries list).filterMap Platform.ofText?)

/-- The entry of a key with the given fields. -/
def ofFields (preprocessor : Preprocessor) (key : Text) (fields : List (Text × Text)) :
    Entry where
  key := key
  platforms := ((lastField? .platforms fields).map platformsOfList).getD .empty
  tags := ((lastField? .tags fields).map Text.listEntries).getD []
  comment := lastField? .comment fields
  values :=
    (fields.filter fun field => FieldKind.ofName field.1 = .value).map fun field =>
      ⟨field.1, preprocessor.segments (Segment.ofText (preprocessor.raw field.2))⟩

end Entry

namespace Document

/-- The entries of a section: one for each key row, with the fields between it
and the next key row. -/
def entriesOf (preprocessor : Preprocessor) (lines : List Text) : List Entry :=
  (blocks IsKeyRow lines).map fun block =>
    .ofFields preprocessor (Text.trim block.1) (block.2.filterMap field?)

/-- The lines in front of the first heading. -/
def frontLines (lines : List Text) : List Text :=
  lines.takeWhile fun line => ¬ IsHeading line

/-- The names of the sections and the lines below them.  Lines in front of the
first heading form a section only if there is a key row among them. -/
def sectionLines (lines : List Text) : List (Text × List Text) :=
  (if ∃ line ∈ frontLines lines, IsKeyRow line then [([], frontLines lines)] else []) ++
    (blocks IsHeading lines).map fun block => (Row.headingName block.1, block.2)

def sectionsOf (preprocessor : Preprocessor) (lines : List Text) : List Section :=
  (sectionLines lines).map fun part => ⟨part.1, entriesOf preprocessor part.2⟩

/-- The languages of all values, in the order of the document. -/
def languagesOf (sections : List Section) : List Text :=
  ((sections.flatMap Section.entries).flatMap Entry.values).map Value.language

/-- The catalog that lines of a document stand for. -/
def catalogOf (preprocessor : Preprocessor) (lines : List Text) : Catalog :=
  ⟨.ofList (languagesOf (sectionsOf preprocessor lines)), sectionsOf preprocessor lines⟩

end Document

/-! ## One more field -/

namespace Entry

theorem lastField?_concat (kind : FieldKind) (fields : List (Text × Text))
    (name text : Text) :
    lastField? kind (fields ++ [(name, text)]) =
      if FieldKind.ofName name = kind then some text else lastField? kind fields := by
  unfold lastField?
  rw [List.filter_append]
  by_cases hkind : FieldKind.ofName name = kind <;> simp [hkind]

theorem ofFields_concat (preprocessor : Preprocessor) (key : Text)
    (fields : List (Text × Text)) (name text : Text) :
    ofFields preprocessor key (fields ++ [(name, text)]) =
      (ofFields preprocessor key fields).withField preprocessor name text := by
  unfold ofFields withField
  simp only [lastField?_concat, List.filter_append, List.map_append]
  cases hkind : FieldKind.ofName name <;>
    simp [hkind, addValue, platformsOfList]

end Entry

/-! ## One more line -/

namespace Document

variable (preprocessor : Preprocessor)

theorem entriesOf_concat_key (lines : List Text) {line : Text} (hline : IsKeyRow line) :
    entriesOf preprocessor (lines ++ [line]) =
      entriesOf preprocessor lines ++ [.new (Text.trim line)] := by
  unfold entriesOf
  rw [blocks_concat_of_head lines hline, List.map_append]
  rfl

theorem entriesOf_concat_field (lines : List Text) {line name text : Text}
    (hkey : ¬ IsKeyRow line) (hfield : field? line = some (name, text)) :
    entriesOf preprocessor (lines ++ [line]) =
      mapLast (·.withField preprocessor name text) (entriesOf preprocessor lines) := by
  unfold entriesOf
  rw [blocks_concat_of_not_head lines hkey]
  refine map_mapLast _ ?_ _
  intro block
  rw [List.filterMap_append, List.filterMap_cons, hfield]
  exact Entry.ofFields_concat preprocessor _ _ name text

theorem entriesOf_concat_other (lines : List Text) {line : Text}
    (hkey : ¬ IsKeyRow line) (hfield : field? line = none) :
    entriesOf preprocessor (lines ++ [line]) = entriesOf preprocessor lines := by
  unfold entriesOf
  rw [blocks_concat_of_not_head lines hkey, map_mapLast id]
  · exact mapLast_eq_self fun x _ => rfl
  · intro block
    simp [hfield]

theorem sectionLines_concat_heading (lines : List Text) {line : Text}
    (hline : IsHeading line) :
    sectionLines (lines ++ [line]) =
      sectionLines lines ++ [(Row.headingName line, [])] := by
  have hfront : frontLines (lines ++ [line]) = frontLines lines :=
    takeWhile_not_concat_of_head lines hline
  unfold sectionLines
  rw [hfront, blocks_concat_of_head lines hline, List.map_append, List.append_assoc]
  rfl

theorem sectionLines_of_no_heading {lines : List Text}
    (hlines : ∀ line ∈ lines, ¬ IsHeading line) :
    sectionLines lines = if ∃ line ∈ lines, IsKeyRow line then [([], lines)] else [] := by
  have hfront : frontLines lines = lines := takeWhile_not_eq_self hlines
  unfold sectionLines
  rw [hfront, (blocks_eq_nil_iff lines).mpr hlines, List.map_nil, List.append_nil]

/-- As long as there are no sections, neither headings nor key rows have been
read. -/
theorem not_isKeyRow_of_sectionLines_eq_nil {lines : List Text}
    (hnone : sectionLines lines = []) : ∀ line ∈ lines, ¬ IsKeyRow line := by
  have hheading : ∀ line ∈ lines, ¬ IsHeading line := by
    rw [← blocks_eq_nil_iff]
    exact List.map_eq_nil_iff.mp (List.append_eq_nil_iff.mp hnone).2
  rw [sectionLines_of_no_heading hheading] at hnone
  intro line hmem hkey
  rw [if_pos ⟨line, hmem, hkey⟩] at hnone
  cases hnone

theorem sectionLines_concat_other (lines : List Text) {line : Text}
    (hline : ¬ IsHeading line) :
    sectionLines (lines ++ [line]) =
      if sectionLines lines = [] then
        if IsKeyRow line then [([], lines ++ [line])] else []
      else mapLast (fun part => (part.1, part.2 ++ [line])) (sectionLines lines) := by
  -- Behind a heading the line belongs to the last block.  In front of all headings
  -- it counts from the first key row on.
  by_cases hheading : ∃ other ∈ lines, IsHeading other
  · have hblocks : blocks IsHeading lines ≠ [] := by
      intro hnil
      obtain ⟨other, hmem, hother⟩ := hheading
      exact (blocks_eq_nil_iff lines).mp hnil other hmem hother
    have hparts : (blocks IsHeading lines).map
        (fun block => (Row.headingName block.1, block.2)) ≠ [] := by
      simpa using hblocks
    have hfront : frontLines (lines ++ [line]) = frontLines lines :=
      takeWhile_not_concat_of_exists line hheading
    unfold sectionLines
    rw [if_neg (fun hnil => hparts (List.append_eq_nil_iff.mp hnil).2), hfront,
      blocks_concat_of_not_head lines hline, mapLast_append _ hparts,
      map_mapLast (fun part => (part.1, part.2 ++ [line])) fun block => rfl]
  · have hnone : ∀ other ∈ lines, ¬ IsHeading other := by simpa using hheading
    have hmore : ∀ other ∈ lines ++ [line], ¬ IsHeading other := by
      intro other hmem
      rcases List.mem_append.mp hmem with hmem | hmem
      · exact hnone other hmem
      · rwa [List.mem_singleton.mp hmem]
    rw [sectionLines_of_no_heading hnone, sectionLines_of_no_heading hmore]
    by_cases hkey : ∃ other ∈ lines, IsKeyRow other
    · have hlonger : ∃ other ∈ lines ++ [line], IsKeyRow other := by
        obtain ⟨other, hmem, hother⟩ := hkey
        exact ⟨other, List.mem_append_left [line] hmem, hother⟩
      rw [if_pos hkey, if_pos hlonger]
      rfl
    · rw [if_neg hkey]
      by_cases hline' : IsKeyRow line
      · rw [if_pos ⟨line, by simp, hline'⟩]
        simp [hline']
      · have hshorter : ¬ ∃ other ∈ lines ++ [line], IsKeyRow other := by
          rintro ⟨other, hmem, hother⟩
          rcases List.mem_append.mp hmem with hmem | hmem
          · exact hkey ⟨other, hmem, hother⟩
          · exact hline' (List.mem_singleton.mp hmem ▸ hother)
        rw [if_neg hshorter]
        simp [hline']

theorem sectionsOf_eq_nil_iff (lines : List Text) :
    sectionsOf preprocessor lines = [] ↔ sectionLines lines = [] :=
  List.map_eq_nil_iff

theorem sectionsOf_concat_heading (lines : List Text) {line : Text}
    (hline : IsHeading line) :
    sectionsOf preprocessor (lines ++ [line]) =
      sectionsOf preprocessor lines ++ [⟨Row.headingName line, []⟩] := by
  unfold sectionsOf
  rw [sectionLines_concat_heading lines hline, List.map_append]
  rfl

theorem sectionsOf_concat_key (lines : List Text) {line : Text} (hline : IsKeyRow line) :
    sectionsOf preprocessor (lines ++ [line]) =
      mapLast (·.addEntry (.new (Text.trim line)))
        (if sectionsOf preprocessor lines = [] then [⟨[], []⟩]
        else sectionsOf preprocessor lines) := by
  have hheading : ¬ IsHeading line := fun hheading => hheading.not_isKeyRow hline
  by_cases hnone : sectionLines lines = []
  · have hentries : entriesOf preprocessor lines = [] := by
      unfold entriesOf
      rw [(blocks_eq_nil_iff lines).mpr (not_isKeyRow_of_sectionLines_eq_nil hnone)]
      rfl
    rw [if_pos ((sectionsOf_eq_nil_iff preprocessor lines).mpr hnone)]
    unfold sectionsOf
    rw [sectionLines_concat_other lines hheading, if_pos hnone, if_pos hline,
      List.map_singleton, entriesOf_concat_key preprocessor lines hline, hentries]
    rfl
  · rw [if_neg (by rwa [sectionsOf_eq_nil_iff])]
    unfold sectionsOf
    rw [sectionLines_concat_other lines hheading, if_neg hnone]
    refine map_mapLast _ ?_ _
    intro part
    rw [entriesOf_concat_key preprocessor part.2 hline]
    rfl

/-- A line that neither begins a section nor an entry changes the lines below
the last heading only. -/
theorem sectionsOf_concat_of_not_key (lines : List Text) {line : Text}
    (hheading : ¬ IsHeading line) (hkey : ¬ IsKeyRow line)
    {change : List Entry → List Entry}
    (hchange : ∀ part, entriesOf preprocessor (part ++ [line]) =
      change (entriesOf preprocessor part)) :
    sectionsOf preprocessor (lines ++ [line]) =
      mapLast (fun last => { last with entries := change last.entries })
        (sectionsOf preprocessor lines) := by
  unfold sectionsOf
  rw [sectionLines_concat_other lines hheading]
  by_cases hnone : sectionLines lines = []
  · rw [if_pos hnone, if_neg hkey, hnone]
    rfl
  · rw [if_neg hnone]
    refine map_mapLast _ ?_ _
    intro part
    rw [hchange]

end Document

/-! ## The last entry -/

namespace Catalog

variable (preprocessor : Preprocessor)

/-- Whether the last section has an entry. -/
def hasLastEntry (catalog : Catalog) : Bool :=
  catalog.sections.getLast?.any fun last => !last.entries.isEmpty

theorem hasLastEntry_eq_false_or (catalog : Catalog) :
    catalog.hasLastEntry = false ∨
      ∃ front parent entries entry,
        catalog.sections = front ++ [⟨parent, entries ++ [entry]⟩] := by
  rcases List.eq_nil_or_concat' catalog.sections with hnil | ⟨front, last, hsections⟩
  · left
    simp [hasLastEntry, hnil]
  · rcases List.eq_nil_or_concat' last.entries with hnil | ⟨entries, entry, hentries⟩
    · left
      simp [hasLastEntry, hsections, hnil]
    · right
      exact ⟨front, last.name, entries, entry, by rw [hsections, ← hentries]⟩

theorem mapLastEntry_eq_self {catalog : Catalog} (hnone : catalog.hasLastEntry = false)
    (change : Entry → Entry) : catalog.mapLastEntry change = catalog := by
  have hsections : mapLast (fun last : Section =>
      { last with entries := mapLast change last.entries }) catalog.sections =
      catalog.sections := by
    apply mapLast_eq_self
    rintro ⟨name, entries⟩ hlast
    have hentries : entries = [] := by
      simpa [hasLastEntry, Option.mem_def.mp hlast] using hnone
    rw [hentries]
    rfl
  unfold mapLastEntry
  rw [hsections]

theorem mapLastEntry_of_sections {catalog : Catalog} {front : List Section} {parent : Text}
    {entries : List Entry} {entry : Entry}
    (hsections : catalog.sections = front ++ [⟨parent, entries ++ [entry]⟩])
    (change : Entry → Entry) :
    catalog.mapLastEntry change =
      ⟨catalog.languages, front ++ [⟨parent, entries ++ [change entry]⟩]⟩ := by
  simp [mapLastEntry, hsections]

theorem hasLastEntry_withField (catalog : Catalog) (name text : Text) :
    (catalog.withField preprocessor name text).hasLastEntry =
      catalog.hasLastEntry := by
  unfold hasLastEntry
  rw [sections_withField]
  rcases catalog.hasLastEntry_eq_false_or with hnone | ⟨front, parent, entries, entry, hsections⟩
  · rw [mapLastEntry_eq_self hnone]
  · rw [mapLastEntry_of_sections hsections, hsections]
    cases entries <;> simp

/-- A key is open exactly as long as the last section has an entry. -/
theorem isSome_openKey_afterRow {catalog : Catalog} {openKey : Option OpenKey}
    (hopen : openKey.isSome = catalog.hasLastEntry) (number : Nat) (row : Row) :
    (OpenKey.afterRow number openKey row).isSome =
      (catalog.afterRow preprocessor openKey.isSome row).hasLastEntry := by
  cases row with
  | heading name => simp [OpenKey.afterRow, afterRow, addSection, hasLastEntry]
  | key key =>
      rcases List.eq_nil_or_concat' catalog.sections with hnil | ⟨front, last, hsections⟩
      · simp [OpenKey.afterRow, afterRow, addEntry, addSection, hasLastEntry, hnil, mapLast,
          Section.addEntry]
      · simp [OpenKey.afterRow, afterRow, addEntry, hasLastEntry, hsections,
          Section.addEntry]
  | field name text =>
      by_cases hkey : openKey.isSome = true
      · simp only [OpenKey.afterRow, afterRow, hkey, if_true, Option.isSome_map]
        rw [hasLastEntry_withField, ← hopen, hkey]
      · simp only [OpenKey.afterRow, afterRow, hkey, Option.isSome_map]
        simpa [hkey] using hopen
  | _ => exact hopen

end Catalog

namespace Document

variable (preprocessor : Preprocessor)

theorem languagesOf_concat_section (sections : List Section) (name : Text) :
    languagesOf (sections ++ [⟨name, []⟩]) = languagesOf sections := by
  simp [languagesOf]

theorem languagesOf_addEntry (sections : List Section) (key : Text) :
    languagesOf (mapLast (·.addEntry (.new key)) sections) = languagesOf sections := by
  rcases List.eq_nil_or_concat' sections with rfl | ⟨front, last, rfl⟩
  · rfl
  · simp [languagesOf, Section.addEntry, Entry.new]

theorem languages_withField (entry : Entry) (name text : Text) :
    (entry.withField preprocessor name text).values.map Value.language =
      entry.values.map Value.language ++
        if FieldKind.ofName name = .value then [name] else [] := by
  unfold Entry.withField
  cases hkind : FieldKind.ofName name <;> simp [Entry.addValue]

theorem languagesOf_withField (front : List Section) (parent : Text)
    (entries : List Entry) (entry : Entry) (name text : Text) :
    languagesOf (front ++
        [⟨parent, entries ++ [entry.withField preprocessor name text]⟩]) =
      languagesOf (front ++ [⟨parent, entries ++ [entry]⟩]) ++
        if FieldKind.ofName name = .value then [name] else [] := by
  unfold languagesOf
  simp only [List.flatMap_append, List.map_append, List.flatMap_singleton,
    languages_withField, List.append_assoc]

/-! ## One more line of a catalog -/

theorem catalogOf_concat_heading (lines : List Text) {line : Text}
    (hline : IsHeading line) :
    catalogOf preprocessor (lines ++ [line]) =
      (catalogOf preprocessor lines).addSection (Row.headingName line) := by
  unfold catalogOf Catalog.addSection
  rw [sectionsOf_concat_heading preprocessor lines hline, languagesOf_concat_section]

theorem catalogOf_concat_key (lines : List Text) {line : Text} (hline : IsKeyRow line) :
    catalogOf preprocessor (lines ++ [line]) =
      (if (catalogOf preprocessor lines).sections.isEmpty then
          (catalogOf preprocessor lines).addSection []
        else catalogOf preprocessor lines).addEntry (.new (Text.trim line)) := by
  unfold catalogOf
  rw [sectionsOf_concat_key preprocessor lines hline, languagesOf_addEntry]
  by_cases hnone : sectionsOf preprocessor lines = []
  · simp [hnone, Catalog.addEntry, Catalog.addSection, languagesOf]
  · simp [hnone, Catalog.addEntry]

theorem catalogOf_concat_field (lines : List Text) {line name text : Text}
    (hheading : ¬ IsHeading line) (hkey : ¬ IsKeyRow line)
    (hfield : field? line = some (name, text)) :
    catalogOf preprocessor (lines ++ [line]) =
      if (catalogOf preprocessor lines).hasLastEntry then
        (catalogOf preprocessor lines).withField preprocessor name text
      else catalogOf preprocessor lines := by
  have hsections :
      sectionsOf preprocessor (lines ++ [line]) =
        ((catalogOf preprocessor lines).mapLastEntry
          (·.withField preprocessor name text)).sections :=
    sectionsOf_concat_of_not_key preprocessor lines hheading hkey
      fun part => entriesOf_concat_field preprocessor part hkey hfield
  -- A field in front of all keys of a section changes nothing on either side.
  rcases (catalogOf preprocessor lines).hasLastEntry_eq_false_or with
    hnone | ⟨front, parent, entries, entry, hlast⟩
  · rw [Catalog.mapLastEntry_eq_self hnone] at hsections
    rw [hnone, if_neg (by decide)]
    unfold catalogOf
    rw [hsections]
    rfl
  · have hopen : (catalogOf preprocessor lines).hasLastEntry = true := by
      simp [Catalog.hasLastEntry, hlast]
    rw [Catalog.mapLastEntry_of_sections hlast] at hsections
    rw [if_pos hopen]
    unfold Catalog.withField
    rw [Catalog.mapLastEntry_of_sections hlast]
    unfold catalogOf
    rw [hsections, languagesOf_withField, ← hlast]
    by_cases hkind : FieldKind.ofName name = .value
    · simp [hkind, Catalog.addLanguage, LanguageSet.ofList_concat, catalogOf]
    · simp [hkind, catalogOf]

theorem catalogOf_concat_other (lines : List Text) {line : Text}
    (hheading : ¬ IsHeading line) (hkey : ¬ IsKeyRow line) (hfield : field? line = none) :
    catalogOf preprocessor (lines ++ [line]) = catalogOf preprocessor lines := by
  have hentries : ∀ part, entriesOf preprocessor (part ++ [line]) =
      id (entriesOf preprocessor part) :=
    fun part => entriesOf_concat_other preprocessor part hkey hfield
  have hsections : sectionsOf preprocessor (lines ++ [line]) =
      sectionsOf preprocessor lines := by
    rw [sectionsOf_concat_of_not_key preprocessor lines hheading hkey hentries]
    exact mapLast_eq_self fun last _ => rfl
  unfold catalogOf
  rw [hsections]

/-- The structure of a document with one more line, in terms of its row. -/
theorem catalogOf_concat (lines : List Text) (line : Text) :
    catalogOf preprocessor (lines ++ [line]) =
      (catalogOf preprocessor lines).afterRow preprocessor
        (catalogOf preprocessor lines).hasLastEntry (Row.ofLine line) := by
  have hkind := lineKind_ofLine line
  generalize Row.ofLine line = row at hkind
  cases hkind with
  | skipped hline =>
      have hheading : ¬ IsHeading line := fun h => hline h.1
      have hkey : ¬ IsKeyRow line := fun h => hline h.1
      have hfield : ¬ IsFieldRow line := fun h => hline h.1
      exact catalogOf_concat_other preprocessor lines hheading hkey (if_neg hfield)
  | mixedIndentation hline hindent =>
      have hheading : ¬ IsHeading line := fun h => hindent 0 h.indented
      have hkey : ¬ IsKeyRow line := fun h => hindent 2 h.2
      have hfield : ¬ IsFieldRow line := fun h => hindent 4 h.2
      exact catalogOf_concat_other preprocessor lines hheading hkey (if_neg hfield)
  | unexpectedIndentation width hline hindent hzero htwo hfour =>
      have hheading : ¬ IsHeading line := fun h => hzero (hindent.unique h.indented)
      have hkey : ¬ IsKeyRow line := fun h => htwo (hindent.unique h.2)
      have hfield : ¬ IsFieldRow line := fun h => hfour (hindent.unique h.2)
      exact catalogOf_concat_other preprocessor lines hheading hkey (if_neg hfield)
  | unindented hline hindent hheading =>
      have hkey : ¬ IsKeyRow line := fun h => by simpa using hindent.unique h.2
      have hfield : ¬ IsFieldRow line := fun h => by simpa using hindent.unique h.2
      exact catalogOf_concat_other preprocessor lines hheading hkey (if_neg hfield)
  | heading hline => exact catalogOf_concat_heading preprocessor lines hline
  | key hline => exact catalogOf_concat_key preprocessor lines hline
  | noSeparator hline hfield =>
      have hheading : ¬ IsHeading line := fun h => h.not_isFieldRow hline
      have hkey : ¬ IsKeyRow line := fun h => h.not_isFieldRow hline
      exact catalogOf_concat_other preprocessor lines hheading hkey hfield
  | field name value hline hfield =>
      have hheading : ¬ IsHeading line := fun h => h.not_isFieldRow hline
      have hkey : ¬ IsKeyRow line := fun h => h.not_isFieldRow hline
      exact catalogOf_concat_field preprocessor lines hheading hkey hfield

/-! ## Whole documents -/

/-- The catalog and the open key after some lines, at any strictness. -/
theorem after_eq_catalogOf (options : ReadOptions) (lines : List Text) :
    (Reading.after options preprocessor lines).catalog = catalogOf preprocessor lines ∧
      (Reading.after options preprocessor lines).openKey.isSome =
        (catalogOf preprocessor lines).hasLastEntry := by
  induction lines using List.reverseRecOn with
  | nil => exact ⟨rfl, rfl⟩
  | append_singleton lines line ih =>
      obtain ⟨hcatalog, hopen⟩ := ih
      rw [Reading.after_concat, Reading.step_eq, catalogOf_concat]
      constructor
      · rw [hcatalog, hopen]
      · rw [Catalog.isSome_openKey_afterRow preprocessor hopen, ← hopen]

theorem catalog_after (options : ReadOptions) (lines : List Text) :
    (Reading.after options preprocessor lines).catalog = catalogOf preprocessor lines :=
  (after_eq_catalogOf preprocessor options lines).1

/-- Every document, whether or not problems are found in it, is read as what its
lines stand for. -/
theorem catalog_read (options : ReadOptions) (text : Text) :
    (read options preprocessor text).catalog =
      catalogOf preprocessor (lines (dropByteOrderMark text)) := by
  rw [catalog_read_eq_after]
  exact catalog_after preprocessor options _

end Document

end MessageCatalog
