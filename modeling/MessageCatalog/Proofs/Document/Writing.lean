import MessageCatalog.Proofs.Document.Grammar
import MessageCatalog.Proofs.Document.Structure
import MessageCatalog.Proofs.Text.Joining

/-!
# Written documents

An author who knows the sections, keys and values of a catalog writes them down
in the form of a document.  Reading the document gives the catalog back, and no
problem is found on the way.

What may be written is limited by the form alone.  No part may contain a line
feed, names and keys must not be mistaken for comments or blanks, a language
must not look like the name of another field, and specifiers have to be
well-formed.  Apart from that a part may contain what it likes, quotes, equals
signs and carriage returns included.
-/

namespace MessageCatalog

/-- What is written about a key. -/
structure EntrySource where
  key : Text
  platforms : PlatformSet
  tags : List Text
  comment : Option Text
  /-- Languages and raw texts. -/
  values : List (Text × Text)

structure SectionSource where
  name : Text
  entries : List EntrySource

/-- A text that can begin a line behind its indentation. -/
structure Text.StartsLine (text : Text) : Prop where
  nonempty : text ≠ []
  trimmed : Text.trim text = text
  noLineFeed : '\n' ∉ text
  noComment : text.head? ≠ some '#'

namespace EntrySource

structure Writable (source : EntrySource) : Prop where
  key : source.key.StartsLine
  tags : ∀ tag ∈ source.tags,
    tag ≠ [] ∧ Text.trim tag = tag ∧ ',' ∉ tag ∧ '\n' ∉ tag
  comment : ∀ comment ∈ source.comment, '\n' ∉ comment
  nonempty : source.values ≠ []
  languages : ∀ value ∈ source.values,
    value.1.StartsLine ∧ '=' ∉ value.1 ∧ FieldKind.ofName value.1 = .value
  texts : ∀ value ∈ source.values,
    '\n' ∉ value.2 ∧
      ∀ body, Mark.specifier body ∈ Mark.ofText value.2 → Specifier.WellFormed body

/-- The entry that is meant. -/
def toEntry (source : EntrySource) : Entry where
  key := source.key
  platforms := source.platforms
  tags := source.tags
  comment := source.comment
  values := source.values.map fun value => ⟨value.1, Segment.ofText value.2⟩

def platformFields (source : EntrySource) : List (Text × Text) :=
  if source.platforms = .empty then []
  else [("platforms".toList,
    Text.join ", ".toList (source.platforms.toList.map Platform.name))]

def tagFields (source : EntrySource) : List (Text × Text) :=
  if source.tags = [] then []
  else [("tags".toList, Text.join ", ".toList source.tags)]

def commentFields (source : EntrySource) : List (Text × Text) :=
  source.comment.toList.map fun comment => ("comment".toList, comment)

/-- The fields that are written: lists only if they are not empty, and a comment
only if there is one. -/
def fields (source : EntrySource) : List (Text × Text) :=
  source.platformFields ++ source.tagFields ++ source.commentFields ++ source.values

end EntrySource

namespace SectionSource

structure Writable (source : SectionSource) : Prop where
  noLineFeed : '\n' ∉ source.name
  start : ∀ c ∈ source.name.head?, c ≠ '=' ∧ c ≠ ' '
  stop : ∀ c ∈ source.name.getLast?, c ≠ '=' ∧ c ≠ ' '
  entries : ∀ entry ∈ source.entries, entry.Writable

def toSection (source : SectionSource) : Section :=
  ⟨source.name, source.entries.map EntrySource.toEntry⟩

end SectionSource

namespace Document

def headingLine (name : Text) : Text := "=== ".toList ++ name ++ " ===".toList

def keyLine (key : Text) : Text := "  ".toList ++ key

def fieldLine (field : Text × Text) : Text :=
  "    ".toList ++ (field.1 ++ " = \"".toList ++ field.2 ++ "\"".toList)

def entryLines (source : EntrySource) : List Text :=
  keyLine source.key :: source.fields.map fieldLine

def linesOfSection (source : SectionSource) : List Text :=
  headingLine source.name :: source.entries.flatMap entryLines

/-- The text of a document with the given sections. -/
def write (sections : List SectionSource) : Text :=
  (sections.flatMap linesOfSection).flatMap fun line => line ++ ['\n']

/-! ## Written lines -/

theorem trim_headingLine (name : Text) : Text.trim (headingLine name) = headingLine name := by
  rw [Text.trim_eq_self_iff]
  constructor
  · intro c hc
    rw [← Option.some.inj hc]
    decide
  · intro c hc
    unfold headingLine at hc
    rw [List.getLast?_append] at hc
    rw [← Option.some.inj hc]
    decide

theorem isHeading_headingLine (name : Text) : IsHeading (headingLine name) := by
  refine ⟨⟨?_, ?_⟩, ⟨' ' :: (name ++ " ===".toList), rfl⟩⟩
  · rw [trim_headingLine]
    simp [headingLine]
  · rw [trim_headingLine]
    simp [headingLine]

theorem headingName_headingLine {name : Text}
    (hstart : ∀ c ∈ name.head?, c ≠ '=' ∧ c ≠ ' ')
    (hstop : ∀ c ∈ name.getLast?, c ≠ '=' ∧ c ≠ ' ') :
    Row.headingName (headingLine name) = name := by
  unfold Row.headingName
  rw [trim_headingLine]
  unfold headingLine
  apply Text.dropAround_append
  · simp
  · simp
  · intro c hc
    simpa using hstart c hc
  · intro c hc
    simpa using hstop c hc

theorem isBlank_of_mem_replicate (width : Nat) :
    ∀ c ∈ List.replicate width ' ', isBlank c = true := by
  intro c hc
  rw [List.eq_of_mem_replicate hc]
  rfl

theorem trim_keyLine {key : Text} (hkey : key.StartsLine) :
    Text.trim (keyLine key) = key := by
  have hall := Text.trim_append (isBlank_of_mem_replicate 2) (isBlank_of_mem_replicate 0)
    hkey.trimmed
  rwa [List.replicate_zero, List.append_nil] at hall

theorem isKeyRow_keyLine {key : Text} (hkey : key.StartsLine) : IsKeyRow (keyLine key) := by
  refine ⟨⟨?_, ?_⟩, ?_⟩
  · rw [trim_keyLine hkey]
    exact hkey.nonempty
  · rw [trim_keyLine hkey]
    exact hkey.noComment
  · exact Text.leadingBlanks_append (isBlank_of_mem_replicate 2)
      ((Text.trim_eq_self_iff key).mp hkey.trimmed).1

theorem unquote_quoted (text : Text) : Row.unquote ('"' :: (text ++ ['"'])) = text := by
  simp [Row.unquote]

/-- A field row without its indentation. -/
theorem trim_field {name : Text} (hname : name.StartsLine) (text : Text) :
    Text.trim (name ++ " = \"".toList ++ text ++ "\"".toList) =
      name ++ " = \"".toList ++ text ++ "\"".toList := by
  have hstart := ((Text.trim_eq_self_iff name).mp hname.trimmed).1
  rw [Text.trim_eq_self_iff]
  constructor
  · cases name with
    | nil => exact absurd rfl hname.nonempty
    | cons d rest => exact hstart
  · intro c hc
    rw [List.getLast?_append] at hc
    rw [← Option.some.inj hc]
    decide

theorem trim_fieldLine {name : Text} (hname : name.StartsLine) (text : Text) :
    Text.trim (fieldLine (name, text)) = name ++ " = \"".toList ++ text ++ "\"".toList := by
  have hall := Text.trim_append (isBlank_of_mem_replicate 4) (isBlank_of_mem_replicate 0)
    (trim_field hname text)
  rwa [List.replicate_zero, List.append_nil] at hall

theorem isFieldRow_fieldLine {name : Text} (hname : name.StartsLine) (text : Text) :
    IsFieldRow (fieldLine (name, text)) := by
  refine ⟨⟨?_, ?_⟩, ?_⟩
  · rw [trim_fieldLine hname]
    simp
  · rw [trim_fieldLine hname]
    cases name with
    | nil => exact absurd rfl hname.nonempty
    | cons d rest => exact hname.noComment
  · exact Text.leadingBlanks_append (isBlank_of_mem_replicate 4)
      ((Text.trim_eq_self_iff _).mp (trim_field hname text)).1

theorem field?_fieldLine {name : Text} (hname : name.StartsLine) (hequals : '=' ∉ name)
    (text : Text) : field? (fieldLine (name, text)) = some (name, text) := by
  -- The name has no equals sign, so the first one is the separator even if the
  -- text has more of them.
  have hsplit : Text.splitFirst? '=' (Text.trim (fieldLine (name, text))) =
      some (name ++ [' '], ' ' :: '"' :: (text ++ ['"'])) := by
    have hbefore : '=' ∉ name ++ [' '] := by simpa using hequals
    rw [trim_fieldLine hname, ← Text.splitFirst?_append hbefore]
    simp
  have hname' : Text.trim (name ++ [' ']) = name :=
    Text.trim_append (isBlank_of_mem_replicate 0) (isBlank_of_mem_replicate 1) hname.trimmed
  have htext : Text.trim (' ' :: '"' :: (text ++ ['"'])) = '"' :: (text ++ ['"']) := by
    rw [Text.trim_cons_of_isBlank (by decide), Text.trim_eq_self_iff]
    constructor
    · intro c hc
      rw [← Option.some.inj hc]
      decide
    · intro c hc
      rw [← List.cons_append, List.getLast?_concat] at hc
      rw [← Option.some.inj hc]
      decide
  unfold field?
  rw [if_pos (isFieldRow_fieldLine hname text), hsplit, Option.map_some, hname', htext,
    unquote_quoted]

end Document

/-! ## Written fields -/

/-- A field whose row is read without a problem as that field. -/
structure WritableField (field : Text × Text) : Prop where
  name : field.1.StartsLine
  noEquals : '=' ∉ field.1
  noLineFeed : '\n' ∉ field.2
  allowed : Document.FieldAllowed field.1 field.2

theorem writableField_of_reserved {name text : Text}
    (hname : name ∈ ["platforms".toList, "tags".toList, "comment".toList])
    (hlineFeed : '\n' ∉ text) (hallowed : Document.FieldAllowed name text) :
    WritableField (name, text) := by
  have hall : ∀ reserved ∈ ["platforms".toList, "tags".toList, "comment".toList],
      reserved ≠ [] ∧ Text.trim reserved = reserved ∧ '\n' ∉ reserved ∧
        reserved.head? ≠ some '#' ∧ '=' ∉ reserved := by
    decide
  obtain ⟨hnil, htrim, hfeed, hcomment, hequals⟩ := hall name hname
  exact ⟨⟨hnil, htrim, hfeed, hcomment⟩, hequals, hlineFeed, hallowed⟩

namespace EntrySource

variable {source : EntrySource}

theorem forall_platformName {platforms : List Platform} :
    ∀ name ∈ platforms.map Platform.name, name ≠ [] ∧ Text.trim name = name ∧ ',' ∉ name := by
  intro name hname
  obtain ⟨platform, -, rfl⟩ := List.mem_map.mp hname
  cases platform <;> decide

theorem forall_tag (hsource : source.Writable) :
    ∀ tag ∈ source.tags, tag ≠ [] ∧ Text.trim tag = tag ∧ ',' ∉ tag := by
  intro tag htag
  obtain ⟨hnil, htrim, hcomma, -⟩ := hsource.tags tag htag
  exact ⟨hnil, htrim, hcomma⟩

theorem writable_platformFields : ∀ field ∈ source.platformFields, WritableField field := by
  intro field hfield
  unfold platformFields at hfield
  split at hfield
  · cases hfield
  · rw [List.mem_singleton.mp hfield]
    refine writableField_of_reserved (by simp) ?_ ?_
    · apply Text.not_mem_join (by decide)
      intro name hname
      obtain ⟨platform, -, rfl⟩ := List.mem_map.mp hname
      cases platform <;> decide
    · intro entry hentry
      rw [Text.listEntries_join forall_platformName] at hentry
      obtain ⟨platform, -, rfl⟩ := List.mem_map.mp hentry
      exact ⟨platform, rfl⟩

theorem writable_tagFields (hsource : source.Writable) :
    ∀ field ∈ source.tagFields, WritableField field := by
  intro field hfield
  unfold tagFields at hfield
  split at hfield
  · cases hfield
  · rw [List.mem_singleton.mp hfield]
    refine writableField_of_reserved (by simp) ?_ trivial
    apply Text.not_mem_join (by decide)
    intro tag htag
    exact (hsource.tags tag htag).2.2.2

theorem writable_commentFields (hsource : source.Writable) :
    ∀ field ∈ source.commentFields, WritableField field := by
  intro field hfield
  obtain ⟨comment, hcomment, rfl⟩ := List.mem_map.mp hfield
  refine writableField_of_reserved (by simp) ?_ trivial
  exact hsource.comment comment (Option.mem_toList.mp hcomment)

theorem writable_values (hsource : source.Writable) :
    ∀ value ∈ source.values, WritableField value := by
  intro value hvalue
  obtain ⟨hname, hequals, hkind⟩ := hsource.languages value hvalue
  obtain ⟨hlineFeed, hspecifiers⟩ := hsource.texts value hvalue
  refine ⟨hname, hequals, hlineFeed, ?_⟩
  unfold Document.FieldAllowed
  rw [hkind]
  exact hspecifiers

theorem writable_fields (hsource : source.Writable) :
    ∀ field ∈ source.fields, WritableField field := by
  unfold fields
  intro field hfield
  rcases List.mem_append.mp hfield with hfield | hfield
  · rcases List.mem_append.mp hfield with hfield | hfield
    · rcases List.mem_append.mp hfield with hfield | hfield
      · exact writable_platformFields field hfield
      · exact writable_tagFields hsource field hfield
    · exact writable_commentFields hsource field hfield
  · exact writable_values hsource field hfield

/-! ## Entries from written fields -/

theorem filter_of_forall_kind {fields : List (Text × Text)} {own : FieldKind}
    (hfields : ∀ field ∈ fields, FieldKind.ofName field.1 = own) (kind : FieldKind) :
    (fields.filter fun field => FieldKind.ofName field.1 = kind) =
      if own = kind then fields else [] := by
  by_cases hkind : own = kind
  · rw [if_pos hkind, List.filter_eq_self]
    intro field hfield
    simpa [hkind] using hfields field hfield
  · rw [if_neg hkind, List.filter_eq_nil_iff]
    intro field hfield
    simpa [hfields field hfield] using hkind

theorem filter_fields (hsource : source.Writable) (kind : FieldKind) :
    (source.fields.filter fun field => FieldKind.ofName field.1 = kind) =
      match kind with
      | .platforms => source.platformFields
      | .tags => source.tagFields
      | .comment => source.commentFields
      | .value => source.values := by
  have hplatforms : ∀ field ∈ source.platformFields,
      FieldKind.ofName field.1 = .platforms := by
    intro field hfield
    unfold platformFields at hfield
    split at hfield
    · cases hfield
    · rw [List.mem_singleton.mp hfield]
      rfl
  have htags : ∀ field ∈ source.tagFields, FieldKind.ofName field.1 = .tags := by
    intro field hfield
    unfold tagFields at hfield
    split at hfield
    · cases hfield
    · rw [List.mem_singleton.mp hfield]
      rfl
  have hcomment : ∀ field ∈ source.commentFields,
      FieldKind.ofName field.1 = .comment := by
    intro field hfield
    obtain ⟨comment, -, rfl⟩ := List.mem_map.mp hfield
    rfl
  have hvalues : ∀ field ∈ source.values, FieldKind.ofName field.1 = .value :=
    fun field hfield => (hsource.languages field hfield).2.2
  unfold fields
  rw [List.filter_append, List.filter_append, List.filter_append,
    filter_of_forall_kind hplatforms, filter_of_forall_kind htags,
    filter_of_forall_kind hcomment, filter_of_forall_kind hvalues]
  cases kind <;> simp

theorem ofList_filterMap_name (platforms : PlatformSet) :
    PlatformSet.ofList ((platforms.toList.map Platform.name).filterMap Platform.ofText?) =
      platforms := by
  obtain ⟨apple, android, windows, java⟩ := platforms
  cases apple <;> cases android <;> cases windows <;> cases java <;> rfl

theorem lastField?_platforms (hsource : source.Writable) :
    Entry.lastField? .platforms source.fields =
      if source.platforms = .empty then none
      else some (Text.join ", ".toList (source.platforms.toList.map Platform.name)) := by
  have hfilter := filter_fields hsource .platforms
  unfold Entry.lastField?
  rw [hfilter]
  unfold platformFields
  by_cases hempty : source.platforms = .empty <;> simp [hempty]

theorem lastField?_tags (hsource : source.Writable) :
    Entry.lastField? .tags source.fields =
      if source.tags = [] then none else some (Text.join ", ".toList source.tags) := by
  have hfilter := filter_fields hsource .tags
  unfold Entry.lastField?
  rw [hfilter]
  unfold tagFields
  by_cases hempty : source.tags = [] <;> simp [hempty]

theorem lastField?_comment (hsource : source.Writable) :
    Entry.lastField? .comment source.fields = source.comment := by
  have hfilter := filter_fields hsource .comment
  unfold Entry.lastField?
  rw [hfilter]
  unfold commentFields
  cases source.comment <;> rfl

theorem platforms_ofFields (hsource : source.Writable) :
    ((Entry.lastField? .platforms source.fields).map Entry.platformsOfList).getD .empty =
      source.platforms := by
  rw [lastField?_platforms hsource]
  by_cases hempty : source.platforms = .empty
  · rw [if_pos hempty, hempty]
    rfl
  · rw [if_neg hempty, Option.map_some, Option.getD_some]
    unfold Entry.platformsOfList
    rw [Text.listEntries_join forall_platformName, ofList_filterMap_name]

theorem tags_ofFields (hsource : source.Writable) :
    ((Entry.lastField? .tags source.fields).map Text.listEntries).getD [] = source.tags := by
  rw [lastField?_tags hsource]
  by_cases hempty : source.tags = []
  · rw [if_pos hempty, hempty]
    rfl
  · rw [if_neg hempty, Option.map_some, Option.getD_some,
      Text.listEntries_join (forall_tag hsource)]

theorem ofFields_fields (hsource : source.Writable) :
    Entry.ofFields .identity source.key source.fields = source.toEntry := by
  have hvalues := filter_fields hsource .value
  unfold Entry.ofFields toEntry
  rw [platforms_ofFields hsource, tags_ofFields hsource, lastField?_comment hsource, hvalues]
  rfl

end EntrySource

namespace Document

/-! ## The structure of written lines -/

theorem isFieldRow_of_mem_fieldLines {source : EntrySource} (hsource : source.Writable) :
    ∀ line ∈ source.fields.map fieldLine, IsFieldRow line := by
  intro line hline
  obtain ⟨field, hfield, rfl⟩ := List.mem_map.mp hline
  exact isFieldRow_fieldLine (source.writable_fields hsource field hfield).name field.2

theorem filterMap_field?_fieldLines {source : EntrySource} (hsource : source.Writable) :
    (source.fields.map fieldLine).filterMap field? = source.fields := by
  have hfields : ∀ field ∈ source.fields, (field? ∘ fieldLine) field = some field := by
    intro field hfield
    have hwritable := source.writable_fields hsource field hfield
    exact field?_fieldLine hwritable.name hwritable.noEquals field.2
  rw [List.filterMap_map, List.filterMap_congr hfields, List.filterMap_some]

theorem entriesOf_entryLines {sources : List EntrySource}
    (hsources : ∀ source ∈ sources, source.Writable) :
    entriesOf .identity (sources.flatMap entryLines) = sources.map EntrySource.toEntry := by
  have hkeys : ∀ source ∈ sources, IsKeyRow (keyLine source.key) :=
    fun source hsource => isKeyRow_keyLine (hsources source hsource).key
  have hrows : ∀ source ∈ sources, ∀ line ∈ source.fields.map fieldLine,
      ¬ IsKeyRow line := by
    intro source hsource line hline hkey
    exact hkey.not_isFieldRow (isFieldRow_of_mem_fieldLines (hsources source hsource) line hline)
  have hblocks : blocks IsKeyRow (sources.flatMap entryLines) =
      sources.map fun source => (keyLine source.key, source.fields.map fieldLine) :=
    blocks_flatMap hkeys hrows
  unfold entriesOf
  rw [hblocks, List.map_map]
  apply List.map_congr_left
  intro source hsource
  have hwritable := hsources source hsource
  rw [Function.comp_apply, trim_keyLine hwritable.key, filterMap_field?_fieldLines hwritable]
  exact EntrySource.ofFields_fields hwritable

theorem not_isHeading_of_mem_entryLines {source : EntrySource} (hsource : source.Writable) :
    ∀ line ∈ entryLines source, ¬ IsHeading line := by
  intro line hline hheading
  rcases List.mem_cons.mp hline with rfl | hline
  · exact hheading.not_isKeyRow (isKeyRow_keyLine hsource.key)
  · exact hheading.not_isFieldRow (isFieldRow_of_mem_fieldLines hsource line hline)

theorem sectionsOf_linesOfSection {sections : List SectionSource}
    (hsections : ∀ source ∈ sections, source.Writable) :
    sectionsOf .identity (sections.flatMap linesOfSection) =
      sections.map SectionSource.toSection := by
  have hheadings : ∀ source ∈ sections, IsHeading (headingLine source.name) :=
    fun source _ => isHeading_headingLine source.name
  have hrows : ∀ source ∈ sections, ∀ line ∈ source.entries.flatMap entryLines,
      ¬ IsHeading line := by
    intro source hsource line hline
    obtain ⟨entry, hentry, hline⟩ := List.mem_flatMap.mp hline
    exact not_isHeading_of_mem_entryLines ((hsections source hsource).entries entry hentry)
      line hline
  have hblocks : blocks IsHeading (sections.flatMap linesOfSection) =
      sections.map fun source =>
        (headingLine source.name, source.entries.flatMap entryLines) :=
    blocks_flatMap hheadings hrows
  have hnone : ∀ line ∈ ([] : List Text), ¬ IsHeading line := by simp
  have hfront : frontLines (sections.flatMap linesOfSection) = [] :=
    takeWhile_not_append_flatMap hnone hheadings
  unfold sectionsOf sectionLines
  rw [hblocks, hfront, if_neg (by simp), List.nil_append, List.map_map, List.map_map]
  apply List.map_congr_left
  intro source hsource
  have hwritable := hsections source hsource
  simp only [Function.comp_apply, entriesOf_entryLines hwritable.entries,
    headingName_headingLine hwritable.start hwritable.stop]
  rfl

end Document

/-! ## Reading written lines -/

namespace Reading

/-- Nothing has been reported so far, and closing the open key would not be
reported either. -/
structure Clean (reading : Reading) : Prop where
  reports : reading.reports = []
  closing : OpenKey.closingReports reading.openKey = []

theorem hasValues_afterField (key : OpenKey) (name : Text) :
    (key.afterField name).hasValues = true ↔
      key.hasValues = true ∨ FieldKind.ofName name = .value := by
  unfold OpenKey.afterField
  by_cases hkind : FieldKind.ofName name = .value <;> simp [hkind]

theorem step_fieldLine {field : Text × Text} (hfield : WritableField field)
    {reading : Reading} (number : Nat) {key : OpenKey} (hreports : reading.reports = [])
    (hkey : reading.openKey = some key) :
    (reading.step .standard .identity number (Document.fieldLine field)).reports = [] ∧
      (reading.step .standard .identity number (Document.fieldLine field)).openKey =
        some (key.afterField field.1) := by
  have hrow : Row.ofLine (Document.fieldLine field) = .field field.1 field.2 :=
    Document.ofLine_of_field? (Document.field?_fieldLine hfield.name hfield.noEquals field.2)
  have hproblems : fieldProblems .identity field.1 field.2 = [] :=
    (Document.fieldProblems_eq_nil_iff field.1 field.2).mpr hfield.allowed
  rw [step_eq, hrow]
  constructor
  · simp [rowReports, hreports, hkey, hproblems]
  · simp [OpenKey.afterRow, hkey]

theorem steps_fieldLines {fields : List (Text × Text)}
    (hfields : ∀ field ∈ fields, WritableField field) {reading : Reading} (number : Nat)
    {key : OpenKey} (hreports : reading.reports = []) (hkey : reading.openKey = some key) :
    (reading.steps .standard .identity number
        (fields.map Document.fieldLine)).reports = [] ∧
      ∃ last, (reading.steps .standard .identity number
          (fields.map Document.fieldLine)).openKey = some last ∧
        (last.hasValues = true ↔
          key.hasValues = true ∨ ∃ field ∈ fields, FieldKind.ofName field.1 = .value) := by
  induction fields generalizing reading number key with
  | nil => exact ⟨hreports, key, hkey, by simp⟩
  | cons field fields ih =>
      have hrest : ∀ other ∈ fields, WritableField other :=
        fun other hother => hfields other (List.mem_cons_of_mem field hother)
      obtain ⟨hreports', hkey'⟩ :=
        step_fieldLine (hfields field (by simp)) number hreports hkey
      obtain ⟨hall, last, hlast, hvalues⟩ := ih hrest (number + 1) hreports' hkey'
      rw [List.map_cons, steps]
      refine ⟨hall, last, hlast, ?_⟩
      rw [hvalues, hasValues_afterField, List.exists_mem_cons_iff, or_assoc]

theorem Clean.entryLines {reading : Reading} (hclean : reading.Clean) (number : Nat)
    {source : EntrySource} (hsource : source.Writable) :
    (reading.steps .standard .identity number (Document.entryLines source)).Clean := by
  have hrow : Row.ofLine (Document.keyLine source.key) = .key source.key := by
    rw [Document.ofLine_of_isKeyRow (Document.isKeyRow_keyLine hsource.key),
      Document.trim_keyLine hsource.key]
  have hstep := step_eq .standard .identity reading number (Document.keyLine source.key)
  rw [hrow] at hstep
  have hreports : (reading.step .standard .identity number
      (Document.keyLine source.key)).reports = [] := by
    rw [hstep]
    simp [rowReports, hclean.reports, hclean.closing]
  have hkey : (reading.step .standard .identity number
      (Document.keyLine source.key)).openKey = some ⟨number, source.key, false⟩ := by
    rw [hstep]
    rfl
  obtain ⟨hall, last, hlast, hvalues⟩ :=
    steps_fieldLines (EntrySource.writable_fields hsource) (number + 1) hreports hkey
  -- One value is enough for the key to be closed in silence.
  have hvalue : ∃ field ∈ source.fields, FieldKind.ofName field.1 = .value := by
    obtain ⟨value, hvalue⟩ := List.exists_mem_of_ne_nil source.values hsource.nonempty
    exact ⟨value, List.mem_append_right _ hvalue, (hsource.languages value hvalue).2.2⟩
  refine ⟨hall, ?_⟩
  have hend : OpenKey.closingReports (some last) = [] := if_pos (hvalues.mpr (Or.inr hvalue))
  rwa [← hlast] at hend

theorem Clean.flatMap {γ : Type} {list : List γ} {linesOf : γ → List Text}
    (hlinesOf : ∀ z ∈ list, ∀ (reading : Reading) (number : Nat), reading.Clean →
      (reading.steps .standard .identity number (linesOf z)).Clean)
    {reading : Reading} (hclean : reading.Clean) (number : Nat) :
    (reading.steps .standard .identity number (list.flatMap linesOf)).Clean := by
  induction list generalizing reading number with
  | nil => exact hclean
  | cons z list ih =>
      rw [List.flatMap_cons, steps_append]
      apply ih
      · intro other hother
        exact hlinesOf other (List.mem_cons_of_mem z hother)
      · exact hlinesOf z (by simp) reading number hclean

theorem Clean.linesOfSection {reading : Reading} (hclean : reading.Clean) (number : Nat)
    {source : SectionSource} (hsource : source.Writable) :
    (reading.steps .standard .identity number (Document.linesOfSection source)).Clean := by
  have hstep := step_eq .standard .identity reading number
    (Document.headingLine source.name)
  rw [Document.ofLine_of_isHeading (Document.isHeading_headingLine source.name)] at hstep
  have hheading : (reading.step .standard .identity number
      (Document.headingLine source.name)).Clean := by
    rw [hstep]
    constructor
    · simp [rowReports, hclean.reports, hclean.closing]
    · rfl
  unfold Document.linesOfSection
  rw [steps]
  apply Clean.flatMap _ hheading
  intro entry hentry reading number hreading
  exact hreading.entryLines number (hsource.entries entry hentry)

end Reading

namespace Document

/-! ## The written text -/

theorem lineFeed_not_mem_fieldLine {field : Text × Text} (hfield : WritableField field) :
    '\n' ∉ fieldLine field := by
  unfold fieldLine
  simp [hfield.name.noLineFeed, hfield.noLineFeed]

theorem lineFeed_not_mem {sections : List SectionSource}
    (hsections : ∀ source ∈ sections, source.Writable) :
    ∀ line ∈ sections.flatMap linesOfSection, '\n' ∉ line := by
  intro line hline
  obtain ⟨source, hsource, hline⟩ := List.mem_flatMap.mp hline
  have hwritable := hsections source hsource
  rcases List.mem_cons.mp hline with rfl | hline
  · unfold headingLine
    simp [hwritable.noLineFeed]
  · obtain ⟨entry, hentry, hline⟩ := List.mem_flatMap.mp hline
    have hentry' := hwritable.entries entry hentry
    rcases List.mem_cons.mp hline with rfl | hline
    · unfold keyLine
      simp [hentry'.key.noLineFeed]
    · obtain ⟨field, hfield, rfl⟩ := List.mem_map.mp hline
      exact lineFeed_not_mem_fieldLine (entry.writable_fields hentry' field hfield)

theorem getLast?_keyLine {key : Text} (hkey : key.StartsLine) :
    (keyLine key).getLast? ≠ some '\r' := by
  have hlast := ((Text.trim_eq_self_iff key).mp hkey.trimmed).2
  unfold keyLine
  rw [List.getLast?_append_of_ne_nil _ hkey.nonempty]
  intro hreturn
  have hblank := hlast '\r' hreturn
  revert hblank
  decide

theorem getLast?_ne_return {sections : List SectionSource}
    (hsections : ∀ source ∈ sections, source.Writable) :
    ∀ line ∈ sections.flatMap linesOfSection, line.getLast? ≠ some '\r' := by
  intro line hline
  obtain ⟨source, hsource, hline⟩ := List.mem_flatMap.mp hline
  rcases List.mem_cons.mp hline with rfl | hline
  · unfold headingLine
    rw [List.getLast?_append_of_ne_nil _ (by decide)]
    decide
  · obtain ⟨entry, hentry, hline⟩ := List.mem_flatMap.mp hline
    rcases List.mem_cons.mp hline with rfl | hline
    · exact getLast?_keyLine ((hsections source hsource).entries entry hentry).key
    · obtain ⟨field, -, rfl⟩ := List.mem_map.mp hline
      unfold fieldLine
      rw [← List.append_assoc, List.getLast?_append_of_ne_nil _ (by decide)]
      decide

theorem dropByteOrderMark_write (sections : List SectionSource) :
    dropByteOrderMark (write sections) = write sections := by
  cases sections with
  | nil => rfl
  | cons source sections => rfl

theorem lines_write {sections : List SectionSource}
    (hsections : ∀ source ∈ sections, source.Writable) :
    lines (dropByteOrderMark (write sections)) = sections.flatMap linesOfSection := by
  rw [dropByteOrderMark_write]
  exact lines_flatMap (lineFeed_not_mem hsections) (getLast?_ne_return hsections)

theorem reports_read_write {sections : List SectionSource}
    (hsections : ∀ source ∈ sections, source.Writable) :
    (read .standard .identity (write sections)).reports = [] := by
  have hstart : Reading.start.Clean := ⟨rfl, rfl⟩
  have hclean : (Reading.after .standard .identity
      (sections.flatMap linesOfSection)).Clean := by
    apply Reading.Clean.flatMap _ hstart
    intro source hsource reading number hreading
    exact hreading.linesOfSection number (hsections source hsource)
  have hend : ReadOptions.standard.requireValuesAtEnd = true := rfl
  rw [reports_read_eq_after, lines_write hsections, if_pos hend]
  exact List.append_eq_nil_iff.mpr ⟨hclean.reports, hclean.closing⟩

theorem catalog_read_write {sections : List SectionSource}
    (hsections : ∀ source ∈ sections, source.Writable) :
    (read .standard .identity (write sections)).catalog =
      ⟨.ofList (languagesOf (sections.map SectionSource.toSection)),
        sections.map SectionSource.toSection⟩ := by
  rw [catalog_read_eq_after, lines_write hsections,
    catalog_after]
  unfold catalogOf
  rw [sectionsOf_linesOfSection hsections]

/-- What is written is read without a problem as what was meant. -/
theorem read_write {sections : List SectionSource}
    (hsections : ∀ source ∈ sections, source.Writable) :
    read .standard .identity (write sections) =
      ⟨⟨.ofList (languagesOf (sections.map SectionSource.toSection)),
        sections.map SectionSource.toSection⟩, []⟩ := by
  rw [← reports_read_write hsections, ← catalog_read_write hsections]

/-- A key that looks like a heading, and quotes, equals signs, commas and carriage
returns wherever they may stand. -/
def awkwardEntry : EntrySource where
  key := "=== \"x\" = y, #1 ===".toList
  platforms := ⟨true, false, false, true⟩
  tags := ["#x = \"y\"".toList, "\"".toList]
  comment := some "\" = , #\r".toList
  values := [
    ("en \"US\", 1".toList, "\"\x7b2:F.3\x7d = \\\x7b, #\r".toList),
    ("tag".toList, [])]

def awkwardSections : List SectionSource :=
  [⟨"a = \"b\", #c".toList, [awkwardEntry]⟩, ⟨[], []⟩]

theorem read_write_awkwardSections :
    (∀ source ∈ awkwardSections, source.Writable) ∧
      read .standard .identity (write awkwardSections) =
        ⟨⟨.ofList ["en \"US\", 1".toList, "tag".toList],
          [⟨"a = \"b\", #c".toList, [awkwardEntry.toEntry]⟩, ⟨[], []⟩]⟩, []⟩ := by
  have hentry : awkwardEntry.Writable := by
    refine ⟨⟨by decide, by decide, by decide, by decide⟩, by decide, by decide, by decide,
      ?_, ?_⟩
    · intro value hvalue
      have hall : ∀ name ∈ awkwardEntry.values.map Prod.fst,
          name ≠ [] ∧ Text.trim name = name ∧ '\n' ∉ name ∧ name.head? ≠ some '#' ∧
            '=' ∉ name ∧ FieldKind.ofName name = .value := by
        decide
      obtain ⟨hnil, htrim, hfeed, hcomment, hequals, hkind⟩ :=
        hall value.1 (List.mem_map_of_mem hvalue)
      exact ⟨⟨hnil, htrim, hfeed, hcomment⟩, hequals, hkind⟩
    · intro value hvalue
      have hall : ∀ text ∈ awkwardEntry.values.map Prod.snd,
          '\n' ∉ text ∧ Segment.problemsOf text = [] := by
        decide +kernel
      obtain ⟨hfeed, hproblems⟩ := hall value.2 (List.mem_map_of_mem hvalue)
      exact ⟨hfeed, (Segment.problemsOf_eq_nil_iff value.2).mp hproblems⟩
  have hsections : ∀ source ∈ awkwardSections, source.Writable := by
    intro source hsource
    rcases List.mem_cons.mp hsource with rfl | hsource
    · refine ⟨by decide, ?_, ?_, ?_⟩
      · intro c hc
        rw [← Option.some.inj hc]
        decide
      · intro c hc
        rw [← Option.some.inj hc]
        decide
      · intro entry hmem
        rwa [List.mem_singleton.mp hmem]
    · rw [List.mem_singleton.mp hsource]
      exact ⟨by decide, by simp, by simp, by simp⟩
  exact ⟨hsections, read_write hsections⟩

end Document

end MessageCatalog
