import MessageCatalog.Output.Format
import MessageCatalog.Proofs.Catalog.LanguageSet
import MessageCatalog.Proofs.Json.Reading

/-!
# The structured form read back

Nothing of a catalog is lost in its structured form.  A part of an entry that is
left out when it is written is the one that stands in for it when it is missing,
and an empty comment is written while an absent one is not.  The two kinds of
segments share no member, so that a placeholder is never taken for text.

Only the size of numbers is limited: a reader takes numbers below 2^64, and a
catalog is read back if and only if its numbers are.
-/

namespace MessageCatalog

namespace Json

/-! ## Members of records -/

/-- The members for a part of a record: none if the part is absent. -/
def memberOf (name : String) (part : Option Json) : List (Text × Json) :=
  part.toList.map fun value => (name.toList, value)

theorem lookup_memberOf_append (name other : String) (part : Option Json)
    (members : List (Text × Json)) :
    lookup name.toList (memberOf other part ++ members) =
      if other = name then part.or (lookup name.toList members)
      else lookup name.toList members := by
  cases part with
  | none => simp [memberOf]
  | some value =>
      by_cases hname : other = name <;> simp [memberOf, lookup, String.toList_inj, hname]

theorem lookup_memberOf (name other : String) (part : Option Json) :
    lookup name.toList (memberOf other part) = if other = name then part else none := by
  have happend := lookup_memberOf_append name other part []
  rw [List.append_nil] at happend
  rw [happend]
  simp [lookup]

/-! ## Numbers and lists -/

theorem toNumber?_ofNat_eq_some_iff (n : Nat) :
    toNumber? (ofNat n) = some n ↔ n < Numeral.bound := by
  have hread : (ofNat n).toNat? = some n := rfl
  simp [toNumber?, hread]

theorem toList?_map_eq_some_iff {α : Type} {read : Json → Option α} {write : α → Json}
    (items : List α) :
    toList? read (.array (items.map write)) = some items ↔
      ∀ item ∈ items, read (write item) = some item := by
  unfold toList? toArray?
  rw [Option.bind_some]
  induction items with
  | nil => simp
  | cons item items ih =>
      rw [List.map_cons, List.mapM_cons, List.forall_mem_cons, ← ih]
      cases read (write item) with
      | none => simp
      | some value =>
          cases (items.map write).mapM read <;> simp

/-- A list that is left out if it is empty. -/
theorem optional_list {α : Type} {members : List (Text × Json)} {name : String}
    {read : Json → Option α} (write : α → Json) {items : List α}
    (hlookup : lookup name.toList members =
      if items.isEmpty then none else some (.array (items.map write)))
    (hread : ∀ item ∈ items, read (write item) = some item) :
    optional members name [] (toList? read) = some items := by
  rw [optional, hlookup]
  by_cases hempty : items.isEmpty = true
  · rw [if_pos hempty, List.isEmpty_iff.mp hempty]
  · rw [if_neg hempty]
    exact (toList?_map_eq_some_iff items).mpr hread

end Json

open Json (memberOf lookup_memberOf lookup_memberOf_append)

/-! ## Placeholders and segments -/

namespace Placeholder

/-- The numbers of the placeholder can be read. -/
structure IsBounded (placeholder : Placeholder) : Prop where
  orderIndex : ∀ order ∈ placeholder.orderIndex, order < Numeral.bound
  decimalCount : ∀ count ∈ placeholder.decimalCount, count < Numeral.bound

def members (placeholder : Placeholder) : List (Text × Json) :=
  memberOf "dataType" (some (.string placeholder.dataType.name)) ++
    (memberOf "orderIndex" (placeholder.orderIndex.map .ofNat) ++
      memberOf "numberOfDecimals" (placeholder.decimalCount.map .ofNat))

theorem toJson_eq (placeholder : Placeholder) :
    placeholder.toJson = .object placeholder.members := by
  unfold toJson members
  rw [List.append_assoc]
  cases placeholder.orderIndex <;> cases placeholder.decimalCount <;> rfl

/-- A number is read as it was written if it is absent or not too large. -/
theorem optional_number_eq_some_iff {members : List (Text × Json)} {name : String}
    {number : Option Nat} (hlookup : Json.lookup name.toList members = number.map .ofNat) :
    Json.optional members name none (Json.nullable Json.toNumber?) = some number ↔
      ∀ n ∈ number, n < Numeral.bound := by
  unfold Json.optional
  rw [hlookup]
  cases number with
  | none => simp
  | some n =>
      have hread : Json.nullable Json.toNumber? (.ofNat n) =
          (Json.toNumber? (.ofNat n)).map some := rfl
      simp [hread, Json.toNumber?_ofNat_eq_some_iff]

theorem ofJson?_toJson_eq_some_iff (placeholder : Placeholder) :
    ofJson? placeholder.toJson = some placeholder ↔ placeholder.IsBounded := by
  have htype : Json.lookup "dataType".toList placeholder.members =
      some (.string placeholder.dataType.name) := by
    simp only [members, lookup_memberOf_append, ↓reduceIte, Option.some_or]
  have horder : Json.lookup "orderIndex".toList placeholder.members =
      placeholder.orderIndex.map .ofNat := by
    simp only [members, lookup_memberOf_append, lookup_memberOf, String.reduceEq, ↓reduceIte,
      Option.or_none]
  have hcount : Json.lookup "numberOfDecimals".toList placeholder.members =
      placeholder.decimalCount.map .ofNat := by
    simp only [members, lookup_memberOf_append, lookup_memberOf, String.reduceEq, ↓reduceIte]
  have hread : Json.required placeholder.members "dataType"
      (fun value => value.toCase?.bind DataType.ofName?) = some placeholder.dataType := by
    rw [Json.required, htype]
    exact DataType.ofName?_name placeholder.dataType
  rw [toJson_eq]
  unfold ofJson? Json.toRecord?
  simp only [Option.bind_eq_bind, Option.bind_some, hread]
  constructor
  · intro hread
    obtain ⟨order, horder', hread⟩ := Option.bind_eq_some_iff.mp hread
    obtain ⟨count, hcount', heq⟩ := Option.bind_eq_some_iff.mp hread
    have horder_eq : order = placeholder.orderIndex :=
      congrArg Placeholder.orderIndex (Option.some.inj heq)
    have hcount_eq : count = placeholder.decimalCount :=
      congrArg Placeholder.decimalCount (Option.some.inj heq)
    subst horder_eq hcount_eq
    exact ⟨(optional_number_eq_some_iff horder).mp horder',
      (optional_number_eq_some_iff hcount).mp hcount'⟩
  · rintro ⟨hboundedOrder, hboundedCount⟩
    rw [(optional_number_eq_some_iff horder).mpr hboundedOrder,
      (optional_number_eq_some_iff hcount).mpr hboundedCount]
    rfl

/-- A placeholder has no member for text. -/
theorem textOfJson?_toJson (placeholder : Placeholder) :
    Segment.textOfJson? placeholder.toJson = none := by
  have htext : Json.lookup "text".toList placeholder.members = none := by
    simp only [members, lookup_memberOf_append, lookup_memberOf, String.reduceEq, ↓reduceIte]
  rw [toJson_eq, Segment.textOfJson?, Json.required, htext]
  rfl

end Placeholder

namespace Segment

def IsBounded : Segment → Prop
  | .text _ => True
  | .placeholder p => p.IsBounded

theorem ofJson?_toJson_eq_some_iff (segment : Segment) :
    ofJson? segment.toJson = some segment ↔ segment.IsBounded := by
  cases segment with
  | text t => exact iff_of_true rfl trivial
  | placeholder p =>
      have hread : ofJson? p.toJson = (Placeholder.ofJson? p.toJson).map .placeholder := by
        rw [ofJson?, p.textOfJson?_toJson]
      have hbounded := p.ofJson?_toJson_eq_some_iff
      rw [toJson, hread, IsBounded, ← hbounded, Option.map_eq_some_iff]
      simp

end Segment

/-! ## Values, entries and sections -/

namespace Value

def IsBounded (value : Value) : Prop := ∀ segment ∈ value.segments, segment.IsBounded

theorem ofJson?_toJson (value : Value) :
    ofJson? value.toJson =
      (Json.toList? Segment.ofJson? (.array (value.segments.map Segment.toJson))).map
        (Value.mk value.language) := by
  have hjson : value.toJson = .object
      (memberOf "language" (some (.string value.language)) ++
        memberOf "segments" (some (.array (value.segments.map Segment.toJson)))) := rfl
  rw [hjson, ofJson?, Json.toRecord?]
  simp only [Option.bind_eq_bind, Option.bind_some, Json.required, lookup_memberOf_append,
    lookup_memberOf, String.reduceEq, ↓reduceIte, Option.some_or]
  cases Json.toList? Segment.ofJson? (.array (value.segments.map Segment.toJson)) <;> rfl

theorem ofJson?_toJson_eq_some_iff (value : Value) :
    ofJson? value.toJson = some value ↔ value.IsBounded := by
  obtain ⟨language, segments⟩ := value
  rw [ofJson?_toJson, IsBounded, Option.map_eq_some_iff]
  simp [Json.toList?_map_eq_some_iff, Segment.ofJson?_toJson_eq_some_iff]

end Value

namespace Entry

def IsBounded (entry : Entry) : Prop := ∀ value ∈ entry.values, value.IsBounded

def members (entry : Entry) : List (Text × Json) :=
  memberOf "key" (some (.string entry.key)) ++
    (memberOf "platforms" (if entry.platforms.isEmpty then none
        else some (.array (entry.platforms.toList.map fun platform => .string platform.name))) ++
      (memberOf "tags" (if entry.tags.isEmpty then none
          else some (.array (entry.tags.map .string))) ++
        (memberOf "comment" (entry.comment.map .string) ++
          memberOf "values" (some (.array (entry.values.map Value.toJson))))))

theorem toJson_eq (entry : Entry) : entry.toJson = .object entry.members := by
  unfold toJson members
  simp only [List.append_assoc]
  by_cases hplatforms : entry.platforms.isEmpty = true <;>
    by_cases htags : entry.tags.isEmpty = true <;>
      cases entry.comment <;> simp only [hplatforms, htags] <;> rfl

theorem optional_platforms (entry : Entry) :
    Json.optional entry.members "platforms" []
      (Json.toList? fun value => value.toCase?.bind Platform.ofName?) =
        some entry.platforms.toList := by
  refine Json.optional_list (fun platform : Platform => .string platform.name) ?_
    fun platform _ => platform.ofName?_name
  simp only [members, lookup_memberOf_append, lookup_memberOf, String.reduceEq, ↓reduceIte,
    PlatformSet.isEmpty_toList, Option.or_none]

theorem optional_tags (entry : Entry) :
    Json.optional entry.members "tags" [] (Json.toList? Json.toText?) = some entry.tags := by
  refine Json.optional_list Json.string ?_ fun tag _ => rfl
  simp only [members, lookup_memberOf_append, lookup_memberOf, String.reduceEq, ↓reduceIte,
    Option.or_none]

theorem optional_comment (entry : Entry) :
    Json.optional entry.members "comment" none (Json.nullable Json.toText?) =
      some entry.comment := by
  have hlookup : Json.lookup "comment".toList entry.members = entry.comment.map .string := by
    simp only [members, lookup_memberOf_append, lookup_memberOf, String.reduceEq, ↓reduceIte,
      Option.or_none]
  rw [Json.optional, hlookup]
  cases entry.comment <;> rfl

theorem ofJson?_toJson (entry : Entry) :
    ofJson? entry.toJson =
      (Json.toList? Value.ofJson? (.array (entry.values.map Value.toJson))).map
        (Entry.mk entry.key entry.platforms entry.tags entry.comment) := by
  have hkey : Json.lookup "key".toList entry.members = some (.string entry.key) := by
    simp only [members, lookup_memberOf_append, ↓reduceIte, Option.some_or]
  have hvalues : Json.lookup "values".toList entry.members =
      some (.array (entry.values.map Value.toJson)) := by
    simp only [members, lookup_memberOf_append, lookup_memberOf, String.reduceEq, ↓reduceIte]
  rw [toJson_eq, ofJson?, Json.toRecord?]
  simp only [Option.bind_eq_bind, Option.bind_some, Json.required, hkey, hvalues,
    Json.toText?, optional_platforms, optional_tags, optional_comment, PlatformSet.ofList_toList]
  cases Json.toList? Value.ofJson? (.array (entry.values.map Value.toJson)) <;> rfl

theorem ofJson?_toJson_eq_some_iff (entry : Entry) :
    ofJson? entry.toJson = some entry ↔ entry.IsBounded := by
  obtain ⟨key, platforms, tags, comment, values⟩ := entry
  rw [ofJson?_toJson, IsBounded, Option.map_eq_some_iff]
  simp [Json.toList?_map_eq_some_iff, Value.ofJson?_toJson_eq_some_iff]

end Entry

namespace Section

def IsBounded (parent : Section) : Prop := ∀ entry ∈ parent.entries, entry.IsBounded

theorem ofJson?_toJson (parent : Section) :
    ofJson? parent.toJson =
      (Json.toList? Entry.ofJson? (.array (parent.entries.map Entry.toJson))).map
        (Section.mk parent.name) := by
  have hjson : parent.toJson = .object
      (memberOf "name" (some (.string parent.name)) ++
        memberOf "translations" (some (.array (parent.entries.map Entry.toJson)))) := rfl
  rw [hjson, ofJson?, Json.toRecord?]
  simp only [Option.bind_eq_bind, Option.bind_some, Json.required, lookup_memberOf_append,
    lookup_memberOf, String.reduceEq, ↓reduceIte, Option.some_or]
  cases Json.toList? Entry.ofJson? (.array (parent.entries.map Entry.toJson)) <;> rfl

theorem ofJson?_toJson_eq_some_iff (parent : Section) :
    ofJson? parent.toJson = some parent ↔ parent.IsBounded := by
  obtain ⟨name, entries⟩ := parent
  rw [ofJson?_toJson, IsBounded, Option.map_eq_some_iff]
  simp [Json.toList?_map_eq_some_iff, Entry.ofJson?_toJson_eq_some_iff]

end Section

/-! ## Catalogs -/

namespace Catalog

/-- All numbers of the catalog can be read. -/
def IsBounded (catalog : Catalog) : Prop := ∀ parent ∈ catalog.sections, parent.IsBounded

/-- The catalog of a text in the structured form. -/
def ofText? (text : Text) : Option Catalog := (Json.read? text).bind ofJson?

theorem ofJson?_toJson (catalog : Catalog) :
    ofJson? catalog.toJson =
      (Json.toList? Section.ofJson? (.array (catalog.sections.map Section.toJson))).map
        (Catalog.mk catalog.languages) := by
  have hjson : catalog.toJson = .object
      (memberOf "languages" (some (.array (catalog.languages.codes.map .string))) ++
        memberOf "sections" (some (.array (catalog.sections.map Section.toJson)))) := rfl
  have hlanguages : Json.toList? Json.toText? (.array (catalog.languages.codes.map .string)) =
      some catalog.languages.codes :=
    (Json.toList?_map_eq_some_iff catalog.languages.codes).mpr fun code _ => rfl
  rw [hjson, ofJson?, Json.toRecord?]
  simp only [Option.bind_eq_bind, Option.bind_some, Json.required, lookup_memberOf_append,
    lookup_memberOf, String.reduceEq, ↓reduceIte, Option.some_or, hlanguages,
    LanguageSet.ofList_codes]
  cases Json.toList? Section.ofJson? (.array (catalog.sections.map Section.toJson)) <;> rfl

theorem ofJson?_toJson_eq_some_iff (catalog : Catalog) :
    ofJson? catalog.toJson = some catalog ↔ catalog.IsBounded := by
  obtain ⟨languages, sections⟩ := catalog
  rw [ofJson?_toJson, IsBounded, Option.map_eq_some_iff]
  simp [Json.toList?_map_eq_some_iff, Section.ofJson?_toJson_eq_some_iff]

/-- There is always a file with the structured form, whatever the language, and it is
read as the catalog it was written for if and only if no number of the catalog is too
large. -/
theorem ofText?_render?_json (catalog : Catalog) (language : Text) :
    ∃ file, Format.json.render? catalog language = some file ∧
      (ofText? file = some catalog ↔ catalog.IsBounded) := by
  have hfeed : ∀ c ∈ ['\n'], Json.isSpace c = true := by simp [Json.isSpace]
  have hread : Json.read? (catalog.toJson.pretty ++ ['\n']) = some catalog.toJson :=
    Json.read?_write_append catalog.toJson (.indented 0) hfeed
  refine ⟨_, rfl, ?_⟩
  rw [ofText?, hread, Option.bind_some, ofJson?_toJson_eq_some_iff]

end Catalog

end MessageCatalog
