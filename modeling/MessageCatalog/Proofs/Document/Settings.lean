import MessageCatalog.Proofs.Document.MissingValues

/-!
# What the settings of a reading change

A reading is given options and a preprocessor.  Neither has a say in which key is
open after a line, and so in how the next line is taken.  Two readings of a
document with different settings therefore go through the same rows with the same
keys open, and it is enough to compare what they make of one row.

The options decide about reports only: which lines are reported for their
indentation, and whether the last key is closed.  The preprocessor decides about
the segments of values and about the reports on the numbers in them.  Whatever it
is, the rest is as with a preprocessor that leaves nothing of a value.
-/

namespace MessageCatalog

namespace Reading

/-- Readings whose reports on each row differ by a filter differ by that filter. -/
theorem filter_reports_after {options other : ReadOptions} {first second : Preprocessor}
    {keep : Report → Bool}
    (hrow : ∀ openKey number line row,
      (rowReports options first openKey number line row).filter keep =
        rowReports other second openKey number line row)
    (lines : List Text) :
    (after options first lines).openKey = (after other second lines).openKey ∧
      (after options first lines).reports.filter keep = (after other second lines).reports := by
  induction lines using List.reverseRecOn with
  | nil => exact ⟨rfl, rfl⟩
  | append_singleton lines line ih =>
      obtain ⟨hkey, hreports⟩ := ih
      rw [after_concat, after_concat, step_eq, step_eq, hkey]
      refine ⟨rfl, ?_⟩
      rw [List.filter_append, hreports, hrow]

end Reading

namespace Document

theorem filter_reports_read {options other : ReadOptions} {first second : Preprocessor}
    {keep : Report → Bool}
    (hrow : ∀ openKey number line row,
      (Reading.rowReports options first openKey number line row).filter keep =
        Reading.rowReports other second openKey number line row)
    (hkeep : ∀ number key, keep ⟨number, .noValues key⟩ = true)
    (hrequire : options.requireValuesAtEnd = other.requireValuesAtEnd) (text : Text) :
    (read options first text).reports.filter keep = (read other second text).reports := by
  obtain ⟨hkey, hreports⟩ :=
    Reading.filter_reports_after hrow (lines (dropByteOrderMark text))
  rw [reports_read_eq_after, reports_read_eq_after, List.filter_append, hreports, hkey,
    hrequire]
  congr 1
  split
  · exact OpenKey.filter_closingReports hkeep _
  · rfl

end Document

/-! ## Preprocessors -/

namespace Value

def withoutSegments (value : Value) : Value := { value with segments := [] }

end Value

namespace Entry

def withoutSegments (entry : Entry) : Entry :=
  { entry with values := entry.values.map Value.withoutSegments }

end Entry

namespace Section

def withoutSegments (parent : Section) : Section :=
  { parent with entries := parent.entries.map Entry.withoutSegments }

end Section

namespace Catalog

/-- The catalog with nothing in its values.  Everything else is still there: names
and keys, platforms, tags and comments, and the languages. -/
def withoutSegments (catalog : Catalog) : Catalog :=
  { catalog with sections := catalog.sections.map Section.withoutSegments }

end Catalog

namespace Preprocessor

/-- The preprocessor that leaves nothing of a value. -/
def erasing : Preprocessor := ⟨fun _ => [], fun _ => []⟩

end Preprocessor

namespace Document

variable (preprocessor : Preprocessor)

theorem withoutSegments_ofFields (key : Text) (fields : List (Text × Text)) :
    (Entry.ofFields preprocessor key fields).withoutSegments =
      .ofFields .erasing key fields := by
  unfold Entry.ofFields Entry.withoutSegments
  simp only [List.map_map]
  rfl

theorem map_withoutSegments_entriesOf (lines : List Text) :
    (entriesOf preprocessor lines).map Entry.withoutSegments = entriesOf .erasing lines := by
  unfold entriesOf
  rw [List.map_map]
  exact List.map_congr_left fun block _ => withoutSegments_ofFields preprocessor _ _

theorem map_withoutSegments_sectionsOf (lines : List Text) :
    (sectionsOf preprocessor lines).map Section.withoutSegments = sectionsOf .erasing lines := by
  unfold sectionsOf
  rw [List.map_map]
  apply List.map_congr_left
  intro part _
  exact congrArg (Section.mk part.1) (map_withoutSegments_entriesOf preprocessor part.2)

theorem languagesOf_map_withoutSegments (sections : List Section) :
    languagesOf (sections.map Section.withoutSegments) = languagesOf sections := by
  have hvalues : ∀ entry : Entry,
      entry.withoutSegments.values.map Value.language = entry.values.map Value.language := by
    intro entry
    unfold Entry.withoutSegments
    rw [List.map_map]
    rfl
  have hentries : (sections.map Section.withoutSegments).flatMap Section.entries =
      (sections.flatMap Section.entries).map Entry.withoutSegments := by
    rw [List.flatMap_map, List.map_flatMap]
    rfl
  unfold languagesOf
  rw [hentries, List.flatMap_map, List.map_flatMap, List.map_flatMap]
  exact List.flatMap_congr fun entry _ => hvalues entry

theorem withoutSegments_catalogOf (lines : List Text) :
    (catalogOf preprocessor lines).withoutSegments = catalogOf .erasing lines := by
  unfold catalogOf Catalog.withoutSegments
  dsimp only
  rw [← map_withoutSegments_sectionsOf preprocessor, languagesOf_map_withoutSegments]

theorem filter_fieldProblems_number (name text : Text) :
    (Reading.fieldProblems preprocessor name text).filter (fun problem => !problem.isNumber) =
      Reading.fieldProblems .erasing name text := by
  unfold Reading.fieldProblems
  cases FieldKind.ofName name with
  | platforms =>
      rw [List.filter_eq_self]
      intro problem hproblem
      obtain ⟨unknown, -, rfl⟩ := List.mem_map.mp hproblem
      rfl
  | tags => rfl
  | comment => rfl
  | value =>
      have hnone : (Segment.problemsOf (Preprocessor.erasing.raw text)).map
          Problem.badSpecifier = [] := rfl
      dsimp only
      rw [hnone, List.filter_eq_nil_iff]
      intro problem hproblem
      obtain ⟨specifier, -, rfl⟩ := List.mem_map.mp hproblem
      simp [Problem.isNumber]

theorem filter_rowReports_number (options : ReadOptions) (openKey : Option OpenKey)
    (number : Nat) (line : Text) (row : Row) :
    ((Reading.rowReports options preprocessor openKey number line row).filter
        fun report => !report.problem.isNumber) =
      Reading.rowReports options .erasing openKey number line row := by
  cases row with
  | skipped => rfl
  | mixedIndentation =>
      by_cases hlenient : options.lenientIndentation = true <;>
        simp [Reading.rowReports, hlenient, Problem.isNumber]
  | unexpectedIndentation width =>
      by_cases hlenient : options.lenientIndentation = true <;>
        simp [Reading.rowReports, hlenient, Problem.isNumber]
  | unindented => rfl
  | heading name => exact OpenKey.filter_closingReports (fun _ _ => rfl) openKey
  | key key => exact OpenKey.filter_closingReports (fun _ _ => rfl) openKey
  | noSeparator => cases openKey <;> rfl
  | field name text =>
      cases openKey with
      | none => rfl
      | some key =>
          have hfield := filter_fieldProblems_number preprocessor name text
          unfold Reading.rowReports
          dsimp only [Option.isNone_some]
          rw [if_neg (by decide), if_neg (by decide), List.filter_map, ← hfield]
          rfl

/-- Readings of a document with different preprocessors agree in everything but the
segments of values and the reports on numbers in values. -/
theorem read_preprocessors (options : ReadOptions) (first second : Preprocessor)
    (text : Text) :
    (read options first text).catalog.withoutSegments =
        (read options second text).catalog.withoutSegments ∧
      ((read options first text).reports.filter fun report => ¬ report.ConcernsNumber) =
        (read options second text).reports.filter fun report => ¬ report.ConcernsNumber := by
  have hreports : ∀ preprocessor,
      ((read options preprocessor text).reports.filter fun report => ¬ report.ConcernsNumber) =
        (read options .erasing text).reports := by
    intro preprocessor
    simp only [Report.decide_not_concernsNumber]
    exact filter_reports_read (filter_rowReports_number preprocessor options)
      (fun _ _ => rfl) rfl text
  constructor
  · rw [catalog_read_eq_after, catalog_read_eq_after, catalog_after, catalog_after,
      withoutSegments_catalogOf, withoutSegments_catalogOf]
  · rw [hreports, hreports]

/-! ## Options -/

theorem filter_fieldProblems_indentation (name text : Text) :
    ((Reading.fieldProblems preprocessor name text).filter fun problem =>
      !problem.isIndentation) = Reading.fieldProblems preprocessor name text := by
  rw [List.filter_eq_self]
  intro problem hproblem
  rcases Reading.exists_of_mem_fieldProblems hproblem with ⟨platform, rfl⟩ | ⟨specifier, rfl⟩
  · rfl
  · rfl

theorem filter_rowReports_indentation (require : Bool) (openKey : Option OpenKey)
    (number : Nat) (line : Text) (row : Row) :
    ((Reading.rowReports ⟨false, require⟩ preprocessor openKey number line row).filter
        fun report => !report.problem.isIndentation) =
      Reading.rowReports ⟨true, require⟩ preprocessor openKey number line row := by
  cases row with
  | skipped => rfl
  | mixedIndentation => rfl
  | unexpectedIndentation width => rfl
  | unindented => rfl
  | heading name => exact OpenKey.filter_closingReports (fun _ _ => rfl) openKey
  | key key => exact OpenKey.filter_closingReports (fun _ _ => rfl) openKey
  | noSeparator => cases openKey <;> rfl
  | field name text =>
      cases openKey with
      | none => rfl
      | some key =>
          have hfield := filter_fieldProblems_indentation preprocessor name text
          unfold Reading.rowReports
          dsimp only [Option.isNone_some]
          rw [if_neg (by decide), List.filter_map]
          exact congrArg _ hfield

/-- The last key row and its number, unless a heading follows it. -/
def lastOpenRow? (lines : List Text) : Option (Text × Nat) :=
  ((lines.zipIdx 1).filter fun line => ClosesKey line.1).getLast?.filter fun line =>
    IsKeyRow line.1

/-- The report on the last key, if no heading follows it and it has no values. -/
def finalReport? (lines : List Text) (catalog : Catalog) : Option Report :=
  ((lastOpenRow? lines).filter fun _ =>
    catalog.entries.getLast?.any fun entry => entry.values = []).map fun row =>
      ⟨row.2, .noValues (Text.trim row.1)⟩

theorem getLast?_entries_catalogOf {lines : List Text}
    {block : (Text × Nat) × List (Text × Nat)}
    (hlast : (blocks (fun line : Text × Nat => ClosesKey line.1) (lines.zipIdx 1)).getLast? =
      some block)
    (hkey : IsKeyRow block.1.1) :
    (catalogOf preprocessor lines).entries.getLast? =
      some (entryOfBlock preprocessor block) := by
  obtain ⟨front, hblocks⟩ := List.getLast?_eq_some_iff.mp hlast
  rw [entries_catalogOf, keyBlocks, hblocks, List.filter_append, List.map_append]
  simp [hkey]

/-- What is reported when the key that is open after some lines is closed. -/
theorem closingReports_openKey_after (options : ReadOptions) (lines : List Text) :
    OpenKey.closingReports (Reading.after options preprocessor lines).openKey =
      (finalReport? lines (catalogOf preprocessor lines)).toList := by
  obtain ⟨closed, last, hparts, hkey, -⟩ := exists_parts_after options preprocessor lines
  have hlast : some last =
      some (((blocks (fun line : Text × Nat => ClosesKey line.1) (lines.zipIdx 1)).getLast?.map
        Part.ofBlock).getD ⟨none, (lines.zipIdx 1).takeWhile fun line => ¬ ClosesKey line.1⟩) := by
    rw [← getLast?_parts, ← List.getLast?_concat (l := closed), ← hparts]
    rfl
  rw [hkey, Option.some.inj hlast]
  unfold finalReport? lastOpenRow?
  rw [← map_fst_blocks, List.getLast?_map]
  cases hblock : (blocks (fun line : Text × Nat => ClosesKey line.1) (lines.zipIdx 1)).getLast? with
  | none => rfl
  | some block =>
      rw [Option.map_some, Option.getD_some, closingReports_openKeyOf_ofBlock, Option.map_some]
      by_cases hrow : IsKeyRow block.1.1
      · rw [getLast?_entries_catalogOf preprocessor hblock hrow]
        simp only [← values_entryOfBlock_eq_nil_iff preprocessor]
        by_cases hvalues : (entryOfBlock preprocessor block).values = [] <;>
          simp [Option.filter, hrow, hvalues]
      · simp [hrow]

/-- The options change nothing but reports.  A lenient reading reports what a strict
one does, except for the indentation of lines.  A reading that does not require
values at the end of the document reports what one does that requires them, except
for the report on the last key. -/
theorem read_options (text : Text) :
    (∀ options other, (read options preprocessor text).catalog =
        (read other preprocessor text).catalog) ∧
      (∀ require, (read ⟨true, require⟩ preprocessor text).reports =
        (read ⟨false, require⟩ preprocessor text).reports.filter
          fun report => ¬ report.ConcernsIndentation) ∧
      ∀ lenient, (read ⟨lenient, true⟩ preprocessor text).reports =
        (read ⟨lenient, false⟩ preprocessor text).reports ++
          (finalReport? (lines (dropByteOrderMark text))
            (read ⟨lenient, true⟩ preprocessor text).catalog).toList := by
  refine ⟨?_, ?_, ?_⟩
  · intro options other
    rw [catalog_read_eq_after, catalog_read_eq_after, catalog_after, catalog_after]
  · intro require
    simp only [Report.decide_not_concernsIndentation]
    exact (filter_reports_read (filter_rowReports_indentation preprocessor require)
      (fun _ _ => rfl) rfl text).symm
  · intro lenient
    have hrow : ∀ openKey number line row,
        (Reading.rowReports ⟨lenient, true⟩ preprocessor openKey number line row).filter
            (fun _ => true) =
          Reading.rowReports ⟨lenient, false⟩ preprocessor openKey number line row := by
      intro openKey number line row
      rw [List.filter_true]
      cases row <;> rfl
    obtain ⟨-, hreports⟩ :=
      Reading.filter_reports_after hrow (lines (dropByteOrderMark text))
    rw [List.filter_true] at hreports
    rw [reports_read_eq_after, reports_read_eq_after, catalog_read_eq_after, catalog_after,
      closingReports_openKey_after, hreports, if_pos rfl, if_neg Bool.false_ne_true,
      List.append_nil]

end Document

end MessageCatalog
