import MessageCatalog.Document.Reading
import Mathlib.Data.List.Induction

/-!
# One line of a document

Reading a line changes three things, and each of them depends on little.  The
open key depends on the row alone, the catalog also on whether a key is open,
and the reports on the open key and the strictness of reading.  This file says
once what each of the three becomes, and what they are after a run over
several lines.
-/

namespace MessageCatalog

namespace Entry

/-- The entry with one more field of its key. -/
def withField (preprocessor : Preprocessor) (entry : Entry) (name text : Text) : Entry :=
  match FieldKind.ofName name with
  | .platforms =>
      { entry with
        platforms := .ofList ((Text.listEntries text).filterMap Platform.ofText?) }
  | .tags => { entry with tags := Text.listEntries text }
  | .comment => { entry with comment := some text }
  | .value =>
      entry.addValue
        ⟨name, preprocessor.segments (Segment.ofText (preprocessor.raw text))⟩

end Entry

namespace Catalog

/-- The catalog after a field of its last entry. -/
def withField (preprocessor : Preprocessor) (catalog : Catalog) (name text : Text) :
    Catalog :=
  let changed := catalog.mapLastEntry (·.withField preprocessor name text)
  if FieldKind.ofName name = .value then changed.addLanguage name else changed

theorem languages_withField (preprocessor : Preprocessor) (catalog : Catalog)
    (name text : Text) :
    (catalog.withField preprocessor name text).languages =
      if FieldKind.ofName name = .value then catalog.languages.insert name
      else catalog.languages := by
  unfold Catalog.withField
  split <;> rfl

theorem sections_withField (preprocessor : Preprocessor) (catalog : Catalog)
    (name text : Text) :
    (catalog.withField preprocessor name text).sections =
      (catalog.mapLastEntry (·.withField preprocessor name text)).sections := by
  unfold Catalog.withField
  split <;> rfl

def afterRow (preprocessor : Preprocessor) (catalog : Catalog) (inBlock : Bool) :
    Row → Catalog
  | .heading name => catalog.addSection name
  | .key key =>
      (if catalog.sections.isEmpty then catalog.addSection [] else catalog).addEntry
        (.new key)
  | .field name text =>
      if inBlock then catalog.withField preprocessor name text else catalog
  | _ => catalog

end Catalog

namespace OpenKey

def afterField (name : Text) (key : OpenKey) : OpenKey :=
  if FieldKind.ofName name = .value then { key with hasValues := true } else key

def afterRow (number : Nat) (openKey : Option OpenKey) : Row → Option OpenKey
  | .heading _ => none
  | .key key => some ⟨number, key, false⟩
  | .field name _ => openKey.map (afterField name)
  | _ => openKey

/-- What is reported when the key is closed. -/
def closingReports : Option OpenKey → List Report
  | none => []
  | some key => if key.hasValues then [] else [⟨key.line, .noValues key.key⟩]

/-- A filter that keeps the reports on missing values keeps all of them. -/
theorem filter_closingReports {keep : Report → Bool}
    (hkeep : ∀ number key, keep ⟨number, .noValues key⟩ = true) (openKey : Option OpenKey) :
    (closingReports openKey).filter keep = closingReports openKey := by
  cases openKey with
  | none => rfl
  | some key =>
      unfold closingReports
      by_cases hvalues : key.hasValues = true
      · simp [hvalues]
      · simp [hvalues, hkeep]

end OpenKey

namespace Reading

def fieldProblems (preprocessor : Preprocessor) (name text : Text) : List Problem :=
  match FieldKind.ofName name with
  | .platforms => unknownPlatforms (Text.listEntries text)
  | .tags => []
  | .comment => []
  | .value => (Segment.problemsOf (preprocessor.raw text)).map .badSpecifier

theorem exists_of_mem_fieldProblems {preprocessor : Preprocessor} {name text : Text}
    {problem : Problem} (hproblem : problem ∈ fieldProblems preprocessor name text) :
    (∃ platform, problem = .unknownPlatform platform) ∨
      ∃ specifier, problem = .badSpecifier specifier := by
  unfold fieldProblems at hproblem
  cases hkind : FieldKind.ofName name with
  | platforms =>
      rw [hkind] at hproblem
      obtain ⟨platform, -, rfl⟩ := List.mem_map.mp hproblem
      exact Or.inl ⟨platform, rfl⟩
  | tags =>
      rw [hkind] at hproblem
      cases hproblem
  | comment =>
      rw [hkind] at hproblem
      cases hproblem
  | value =>
      rw [hkind] at hproblem
      obtain ⟨specifier, -, rfl⟩ := List.mem_map.mp hproblem
      exact Or.inr ⟨specifier, rfl⟩

/-- What is reported when a line is read. -/
def rowReports (options : ReadOptions) (preprocessor : Preprocessor)
    (openKey : Option OpenKey) (number : Nat) (line : Text) : Row → List Report
  | .skipped => []
  | .mixedIndentation =>
      if options.lenientIndentation then [] else [⟨number, .mixedIndentation line⟩]
  | .unexpectedIndentation width =>
      if options.lenientIndentation then []
      else [⟨number, .unexpectedIndentation width line⟩]
  | .unindented => [⟨number, .unindented line⟩]
  | .heading _ => OpenKey.closingReports openKey
  | .key _ => OpenKey.closingReports openKey
  | .noSeparator =>
      if openKey.isNone then [⟨number, .looseLine line⟩] else [⟨number, .noSeparator line⟩]
  | .field name text =>
      if openKey.isNone then [⟨number, .looseLine line⟩]
      else (fieldProblems preprocessor name text).map (Report.mk number)

theorem closeKey_eq (reading : Reading) :
    reading.closeKey =
      ⟨reading.catalog, reading.reports ++ OpenKey.closingReports reading.openKey,
        none⟩ := by
  unfold closeKey
  cases hkey : reading.openKey with
  | none => simp [OpenKey.closingReports, ← hkey]
  | some key =>
      by_cases hvalues : key.hasValues = true <;>
        simp [OpenKey.closingReports, report, hvalues]

theorem field_eq (preprocessor : Preprocessor) (reading : Reading) (number : Nat)
    (name text : Text) :
    reading.field preprocessor number name text =
      ⟨reading.catalog.withField preprocessor name text,
        reading.reports ++ (fieldProblems preprocessor name text).map (Report.mk number),
        reading.openKey.map (OpenKey.afterField name)⟩ := by
  unfold field Catalog.withField Entry.withField fieldProblems OpenKey.afterField
  cases hkind : FieldKind.ofName name <;>
    simp [mapEntry, report, value]

theorem step_eq (options : ReadOptions) (preprocessor : Preprocessor)
    (reading : Reading) (number : Nat) (line : Text) :
    reading.step options preprocessor number line =
      ⟨reading.catalog.afterRow preprocessor reading.openKey.isSome (Row.ofLine line),
        reading.reports ++
          rowReports options preprocessor reading.openKey number line (Row.ofLine line),
        OpenKey.afterRow number reading.openKey (Row.ofLine line)⟩ := by
  unfold step
  cases hrow : Row.ofLine line with
  | skipped => simp [Catalog.afterRow, rowReports, OpenKey.afterRow]
  | mixedIndentation =>
      unfold reportIndentation
      by_cases hlenient : options.lenientIndentation = true <;>
        simp [hlenient, Catalog.afterRow, rowReports, OpenKey.afterRow, report]
  | unexpectedIndentation width =>
      unfold reportIndentation
      by_cases hlenient : options.lenientIndentation = true <;>
        simp [hlenient, Catalog.afterRow, rowReports, OpenKey.afterRow, report]
  | unindented => simp [Catalog.afterRow, rowReports, OpenKey.afterRow, report]
  | heading name =>
      simp [heading, closeKey_eq, Catalog.afterRow, rowReports, OpenKey.afterRow]
  | key key =>
      simp [Reading.key, closeKey_eq, Catalog.afterRow, rowReports, OpenKey.afterRow]
  | noSeparator =>
      cases hkey : reading.openKey <;>
        simp [hkey, Catalog.afterRow, rowReports, OpenKey.afterRow, report]
  | field name text =>
      cases hkey : reading.openKey <;>
        simp [hkey, field_eq, Catalog.afterRow, rowReports, OpenKey.afterRow, report]

/-! ## Runs over several lines -/

theorem steps_append (options : ReadOptions) (preprocessor : Preprocessor)
    (lines more : List Text) (reading : Reading) (number : Nat) :
    reading.steps options preprocessor number (lines ++ more) =
      (reading.steps options preprocessor number lines).steps options preprocessor
        (number + lines.length) more := by
  induction lines generalizing reading number with
  | nil => rfl
  | cons first lines ih =>
      rw [List.cons_append, steps, steps, ih, List.length_cons]
      congr 1
      omega

/-- How far reading has come after the first lines of a document. -/
def after (options : ReadOptions) (preprocessor : Preprocessor) (lines : List Text) :
    Reading :=
  start.steps options preprocessor 1 lines

theorem after_concat (options : ReadOptions) (preprocessor : Preprocessor)
    (lines : List Text) (line : Text) :
    after options preprocessor (lines ++ [line]) =
      (after options preprocessor lines).step options preprocessor
        (1 + lines.length) line :=
  steps_append options preprocessor lines [line] start 1

end Reading

namespace Document

theorem catalog_read_eq_after (options : ReadOptions) (preprocessor : Preprocessor)
    (text : Text) :
    (read options preprocessor text).catalog =
      (Reading.after options preprocessor (lines (dropByteOrderMark text))).catalog := by
  unfold read Reading.after Reading.finish
  by_cases hrequire : options.requireValuesAtEnd = true <;>
    simp [hrequire, Reading.closeKey_eq]

theorem reports_read_eq_after (options : ReadOptions) (preprocessor : Preprocessor)
    (text : Text) :
    (read options preprocessor text).reports =
      (Reading.after options preprocessor (lines (dropByteOrderMark text))).reports ++
        if options.requireValuesAtEnd then
          OpenKey.closingReports
            (Reading.after options preprocessor (lines (dropByteOrderMark text))).openKey
        else [] := by
  unfold read Reading.after Reading.finish
  by_cases hrequire : options.requireValuesAtEnd = true <;>
    simp [hrequire, Reading.closeKey_eq]

end Document

end MessageCatalog
