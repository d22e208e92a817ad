import MessageCatalog.Preprocessing.Named
import MessageCatalog.Proofs.Document.MissingValues
import MessageCatalog.Proofs.Segment.Writing

/-!
# The form of catalogs that are read

Whatever a document contains, the catalog read from it has a certain form: the
known languages are those of the values, keys, tags and languages look as they
do in a document, and the segments of values are canonical.  Output formats
rely on this, although the types allow other catalogs.

Preprocessors might break the form, since they may do to the segments what they
like.  Those that are known by name change only the raw text, and whatever raw
text is read gives canonical segments.
-/

namespace MessageCatalog

/-- A text that can be the name of a value in a document. -/
structure Text.IsLanguage (language : Text) : Prop where
  trimmed : Text.trim language = language
  noEquals : '=' ∉ language
  noComment : language.head? ≠ some '#'
  notReserved : Text.escapeWith FieldKind.lowerForm language ∉
    ["platforms".toList, "tags".toList, "comment".toList]

structure Text.IsKey (key : Text) : Prop where
  nonempty : key ≠ []
  trimmed : Text.trim key = key
  noComment : key.head? ≠ some '#'

structure Text.IsTag (tag : Text) : Prop where
  nonempty : tag ≠ []
  trimmed : Text.trim tag = tag
  noComma : ',' ∉ tag

structure Value.WellFormed (value : Value) : Prop where
  language : value.language.IsLanguage
  gathered : Segment.Gathered value.segments
  positions : ∀ p, Segment.placeholder p ∈ value.segments → p.orderIndex ≠ some 0
  decimals : ∀ p, Segment.placeholder p ∈ value.segments →
    p.decimalCount.isSome = true → p.dataType = .float

structure Entry.WellFormed (entry : Entry) : Prop where
  key : entry.key.IsKey
  tags : ∀ tag ∈ entry.tags, tag.IsTag
  values : ∀ value ∈ entry.values, value.WellFormed

structure Catalog.WellFormed (catalog : Catalog) : Prop where
  languages : ∀ code, code ∈ catalog.languages.codes ↔
    ∃ entry ∈ catalog.entries, ∃ value ∈ entry.values, value.language = code
  entries : ∀ entry ∈ catalog.entries, entry.WellFormed

/-! ## Keys, tags and languages -/

namespace Text

theorem isTag_of_mem_listEntries {list tag : Text} (htag : tag ∈ listEntries list) :
    tag.IsTag := by
  obtain ⟨hmem, hkept⟩ := List.mem_filter.mp htag
  obtain ⟨piece, hpiece, rfl⟩ := List.mem_map.mp hmem
  refine ⟨by simpa using hkept, trim_trim piece, ?_⟩
  rw [Document.mem_trim_iff (by decide)]
  exact not_mem_of_mem_splitOn hpiece

end Text

namespace FieldKind

theorem ofName_eq_value_iff (name : Text) :
    ofName name = .value ↔ Text.escapeWith lowerForm name ∉
      ["platforms".toList, "tags".toList, "comment".toList] := by
  have hname : ofName name =
      if Text.escapeWith lowerForm name = "platforms".toList then .platforms
      else if Text.escapeWith lowerForm name = "tags".toList then .tags
      else if Text.escapeWith lowerForm name = "comment".toList then .comment
      else .value := rfl
  rw [hname, List.mem_cons, List.mem_cons, List.mem_singleton, not_or, not_or]
  split
  · next hplatforms => exact iff_of_false (by decide) fun h => h.1 hplatforms
  · next hplatforms =>
      split
      · next htags => exact iff_of_false (by decide) fun h => h.2.1 htags
      · next htags =>
          split
          · next hcomment => exact iff_of_false (by decide) fun h => h.2.2 hcomment
          · next hcomment => exact iff_of_true rfl ⟨hplatforms, htags, hcomment⟩

end FieldKind

namespace Document

theorem IsKeyRow.isKey {line : Text} (hline : IsKeyRow line) : (Text.trim line).IsKey :=
  ⟨hline.1.1, Text.trim_trim line, hline.1.2⟩

theorem isLanguage_of_field? {line name text : Text} (hfield : field? line = some (name, text))
    (hkind : FieldKind.ofName name = .value) : name.IsLanguage := by
  have hline := isFieldRow_of_field? hfield
  unfold field? at hfield
  rw [if_pos hline] at hfield
  obtain ⟨⟨before, after⟩, hsplit, heq⟩ := Option.map_eq_some_iff.mp hfield
  obtain ⟨rfl, -⟩ := Prod.mk.inj heq
  refine ⟨Text.trim_trim before, ?_, ?_, (FieldKind.ofName_eq_value_iff _).mp hkind⟩
  · rw [mem_trim_iff (by decide)]
    exact Text.not_mem_of_splitFirst?_eq_some hsplit
  · have hhead : ∀ c ∈ before.head?, c ∈ (Text.trim line).head? := by
      intro c hc
      rw [← Text.append_eq_of_splitFirst?_eq_some hsplit, List.head?_append,
        Option.mem_def.mp hc]
      rfl
    have hblank : ∀ c ∈ before.head?, isBlank c = false :=
      fun c hc => Text.head?_dropAround_eq_false line c (hhead c hc)
    intro hcomment
    exact hline.1.2 (hhead '#' (Text.head?_trim_of_head? hblank '#' hcomment))

/-! ## Entries and languages -/

variable {preprocessor : Preprocessor}

theorem wellFormed_ofText {language : Text} (hlanguage : language.IsLanguage) (raw : Text) :
    (⟨language, Segment.ofText raw⟩ : Value).WellFormed := by
  have hsegments := Segment.canonical_ofText raw
  refine ⟨hlanguage, hsegments.gathered, ?_, ?_⟩
  · intro p hp hzero
    have hpos := ((hsegments.expressible p hp).orderIndex 0 hzero).1
    exact Nat.lt_irrefl 0 hpos
  · intro p hp hsome
    obtain ⟨count, hcount⟩ := Option.isSome_iff_exists.mp hsome
    exact ((hsegments.expressible p hp).decimalCount count hcount).1

theorem wellFormed_entryOfBlock (hsegments : preprocessor.segments = id)
    {block : (Text × Nat) × List (Text × Nat)} (hkey : IsKeyRow block.1.1) :
    (entryOfBlock preprocessor block).WellFormed := by
  constructor
  · exact hkey.isKey
  · intro tag htag
    unfold entryOfBlock Entry.ofFields at htag
    cases hlist : Entry.lastField? .tags ((block.2.map Prod.fst).filterMap field?) with
    | none =>
        rw [hlist] at htag
        cases htag
    | some list =>
        rw [hlist] at htag
        exact Text.isTag_of_mem_listEntries htag
  · intro value hvalue
    obtain ⟨field, hfield, rfl⟩ := List.mem_map.mp hvalue
    obtain ⟨hmem, hkind⟩ := List.mem_filter.mp hfield
    obtain ⟨line, -, hline⟩ := List.mem_filterMap.mp hmem
    rw [hsegments]
    exact wellFormed_ofText (isLanguage_of_field? hline (of_decide_eq_true hkind)) _

theorem mem_languages_catalogOf_iff (lines : List Text) (code : Text) :
    code ∈ (catalogOf preprocessor lines).languages.codes ↔
      ∃ entry ∈ (catalogOf preprocessor lines).entries,
        ∃ value ∈ entry.values, value.language = code := by
  have hlanguages : (catalogOf preprocessor lines).languages =
      .ofList (((catalogOf preprocessor lines).entries.flatMap Entry.values).map
        Value.language) := rfl
  rw [hlanguages, LanguageSet.mem_codes_ofList_iff, List.mem_map]
  constructor
  · rintro ⟨value, hvalue, hcode⟩
    obtain ⟨entry, hentry, hvalue⟩ := List.mem_flatMap.mp hvalue
    exact ⟨entry, hentry, value, hvalue, hcode⟩
  · rintro ⟨entry, hentry, value, hvalue, hcode⟩
    exact ⟨value, List.mem_flatMap.mpr ⟨entry, hentry, hvalue⟩, hcode⟩

theorem wellFormed_catalogOf (hsegments : preprocessor.segments = id) (lines : List Text) :
    (catalogOf preprocessor lines).WellFormed := by
  refine ⟨mem_languages_catalogOf_iff lines, ?_⟩
  intro entry hentry
  rw [entries_catalogOf] at hentry
  obtain ⟨block, hblock, rfl⟩ := List.mem_map.mp hentry
  exact wellFormed_entryOfBlock hsegments (of_decide_eq_true (List.mem_filter.mp hblock).2)

end Document

/-! ## Preprocessors by name -/

namespace Preprocessor

theorem segments_pipeline_named (stages : List NamedPreprocessor) :
    (pipeline (stages.map NamedPreprocessor.preprocessor)).segments = id := by
  induction stages with
  | nil => rfl
  | cons stage stages ih =>
      funext segments
      rw [List.map_cons, pipeline_cons_segments, ih]
      cases stage <;> rfl

theorem segments_of_ofNames_eq_ok {names : Text} {preprocessor : Preprocessor}
    (hnames : ofNames names = .ok preprocessor) : preprocessor.segments = id := by
  unfold ofNames at hnames
  cases hlist : NamedPreprocessor.ofList names with
  | error unknown =>
      rw [hlist] at hnames
      cases hnames
  | ok stages =>
      rw [hlist] at hnames
      rw [← Except.ok.inj hnames]
      exact segments_pipeline_named stages

end Preprocessor

namespace Document

/-- What a preprocessor makes of the text of a value does not matter. -/
theorem wellFormed_catalog_read_of_segments {preprocessor : Preprocessor}
    (hsegments : preprocessor.segments = id) (options : ReadOptions) (text : Text) :
    (read options preprocessor text).catalog.WellFormed := by
  rw [catalog_read_eq_after, catalog_after]
  exact wellFormed_catalogOf hsegments _

/-- The catalog read from any document, with any problems in it and at any
strictness, has the form that is expected of catalogs. -/
theorem wellFormed_catalog_read {names : Text} {preprocessor : Preprocessor}
    (hnames : Preprocessor.ofNames names = .ok preprocessor) (options : ReadOptions)
    (text : Text) : (read options preprocessor text).catalog.WellFormed :=
  wellFormed_catalog_read_of_segments (Preprocessor.segments_of_ofNames_eq_ok hnames) options text

theorem wellFormed_catalog_read_markdown :
    Preprocessor.ofNames "markdown, smartypants".toList =
        .ok (.pipeline [.ofRaw MarkdownValue.render, .ofRaw SmartPunctuation.smarten]) ∧
      (read .standard
        (.pipeline [.ofRaw MarkdownValue.render, .ofRaw SmartPunctuation.smarten])
        "  K\n    tags = a,,b\n   x\n    en = *\\\x7b* \x7b0:d.2\n".toList).catalog.WellFormed := by
  have hnames : Preprocessor.ofNames "markdown, smartypants".toList =
      .ok (.pipeline [.ofRaw MarkdownValue.render, .ofRaw SmartPunctuation.smarten]) := rfl
  exact ⟨hnames, wellFormed_catalog_read hnames _ _⟩

end Document

end MessageCatalog
