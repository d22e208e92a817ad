import MessageCatalog.Catalog.Basic
import MessageCatalog.Json.Printer
import MessageCatalog.Text.Numeral

/-!
# The structured form of a catalog

A catalog is exchanged as a JSON value.  Absent parts of an entry or of a
placeholder are left out when they are written and may be missing, or for
optional values null, when they are read; members of other names are
ignored.  A segment with a text member is literal text, and any other is a
placeholder.
-/

namespace MessageCatalog

namespace Json

def toList? {α : Type} (read : Json → Option α) (value : Json) : Option (List α) :=
  value.toArray?.bind fun items => items.mapM read

def required {α : Type} (members : List (Text × Json)) (name : String)
    (read : Json → Option α) : Option α :=
  (lookup name.toList members).bind read

def optional {α : Type} (members : List (Text × Json)) (name : String)
    (default : α) (read : Json → Option α) : Option α :=
  match lookup name.toList members with
  | none => some default
  | some value => read value

def nullable {α : Type} (read : Json → Option α) : Json → Option (Option α)
  | null => some none
  | value => (read value).map some

/-- A number below the bound of all numbers. -/
def toNumber? (value : Json) : Option Nat :=
  value.toNat?.filter fun n => n < Numeral.bound

end Json

open Json (required optional nullable)

namespace Placeholder

def toJson (placeholder : Placeholder) : Json :=
  .object <|
    [("dataType".toList, .string placeholder.dataType.name)]
      ++ (match placeholder.orderIndex with
          | some order => [("orderIndex".toList, .ofNat order)]
          | none => [])
      ++ (match placeholder.decimalCount with
          | some count => [("numberOfDecimals".toList, .ofNat count)]
          | none => [])

def ofJson? (value : Json) : Option Placeholder := do
  let members ← value.toRecord?
    ["dataType".toList, "orderIndex".toList, "numberOfDecimals".toList]
  let dataType ← required members "dataType" fun v => v.toCase?.bind DataType.ofName?
  let orderIndex ← optional members "orderIndex" none (nullable Json.toNumber?)
  let decimalCount ← optional members "numberOfDecimals" none (nullable Json.toNumber?)
  return ⟨dataType, orderIndex, decimalCount⟩

end Placeholder

namespace Segment

def toJson : Segment → Json
  | .text t => .object [("text".toList, .string t)]
  | .placeholder p => p.toJson

def textOfJson? : Json → Option Text
  | .object members => required members "text" Json.toText?
  | _ => none

def ofJson? (value : Json) : Option Segment :=
  match textOfJson? value with
  | some t => some (.text t)
  | none => (Placeholder.ofJson? value).map .placeholder

end Segment

namespace Value

def toJson (value : Value) : Json :=
  .object
    [("language".toList, .string value.language),
      ("segments".toList, .array (value.segments.map Segment.toJson))]

def ofJson? (value : Json) : Option Value := do
  let members ← value.toRecord? ["language".toList, "segments".toList]
  let language ← required members "language" Json.toText?
  let segments ← required members "segments" (Json.toList? Segment.ofJson?)
  return ⟨language, segments⟩

end Value

namespace Entry

def toJson (entry : Entry) : Json :=
  .object <|
    [("key".toList, .string entry.key)]
      ++ (if entry.platforms.isEmpty then []
          else [("platforms".toList,
            .array (entry.platforms.toList.map fun p => .string p.name))])
      ++ (if entry.tags.isEmpty then []
          else [("tags".toList, .array (entry.tags.map .string))])
      ++ (match entry.comment with
          | some comment => [("comment".toList, .string comment)]
          | none => [])
      ++ [("values".toList, .array (entry.values.map Value.toJson))]

def ofJson? (value : Json) : Option Entry := do
  let members ← value.toRecord?
    ["key".toList, "platforms".toList, "tags".toList, "comment".toList, "values".toList]
  let key ← required members "key" Json.toText?
  let platforms ← optional members "platforms" []
    (Json.toList? fun v => v.toCase?.bind Platform.ofName?)
  let tags ← optional members "tags" [] (Json.toList? Json.toText?)
  let comment ← optional members "comment" none (nullable Json.toText?)
  let values ← required members "values" (Json.toList? Value.ofJson?)
  return ⟨key, .ofList platforms, tags, comment, values⟩

end Entry

namespace Section

def toJson (part : Section) : Json :=
  .object
    [("name".toList, .string part.name),
      ("translations".toList, .array (part.entries.map Entry.toJson))]

def ofJson? (value : Json) : Option Section := do
  let members ← value.toRecord? ["name".toList, "translations".toList]
  let name ← required members "name" Json.toText?
  let entries ← required members "translations" (Json.toList? Entry.ofJson?)
  return ⟨name, entries⟩

end Section

namespace Catalog

def toJson (catalog : Catalog) : Json :=
  .object
    [("languages".toList, .array (catalog.languages.codes.map .string)),
      ("sections".toList, .array (catalog.sections.map Section.toJson))]

/-- The catalog of a structured form.  The languages may come in any order
and more than once. -/
def ofJson? (value : Json) : Option Catalog := do
  let members ← value.toRecord? ["languages".toList, "sections".toList]
  let languages ← required members "languages" (Json.toList? Json.toText?)
  let sections ← required members "sections" (Json.toList? Section.ofJson?)
  return ⟨.ofList languages, sections⟩

end Catalog

end MessageCatalog
