import MessageCatalog.Proofs.Document.Message
import MessageCatalog.Proofs.Document.Reports
import MessageCatalog.Proofs.Document.Structure

/-!
# Keys without values

There is one entry for each key row, and a key is reported for want of values if
and only if its entry has none.  The reading keeps the two apart: entries belong
to the last section, while the open key has a mark of its own for values.  Both
are determined by the part of the document below the key row, where headings
and key rows alike end a part, but only headings end a section.
-/

namespace MessageCatalog

namespace Report

/-- The message is that about a key without values. -/
def MissesValues (report : Report) : Prop :=
  ∃ key, report.problem.message =
    "Translation '".toList ++ key ++ "' has no values".toList

end Report

namespace Problem

/-- No other message has the form of that about a key without values. -/
theorem message_eq_iff (problem : Problem) (key : Text) :
    problem.message = "Translation '".toList ++ key ++ "' has no values".toList ↔
      problem = .noValues key := by
  constructor
  · intro heq
    have hbegins : "Translation '".toList <+: problem.message := by
      rw [heq, List.append_assoc]
      exact List.prefix_append _ _
    have hinitials : problem.initials = ['T', 'r', 'a'] :=
      initials_of_prefix_message (by simp) hbegins
    cases problem with
    | noValues other => rw [List.append_cancel_left (List.append_cancel_right heq)]
    | _ => simp [initials] at hinitials
  · rintro rfl
    rfl

end Problem

namespace Report

theorem missesValues_iff (report : Report) :
    report.MissesValues ↔ ∃ key, report.problem = .noValues key := by
  simp only [MissesValues, Problem.message_eq_iff]

instance (report : Report) : Decidable report.MissesValues :=
  decidable_of_iff ((match report.problem with | .noValues _ => true | _ => false) = true) <| by
    rw [missesValues_iff]
    cases report.problem <;> simp

end Report

namespace Document

/-- The key rows with the numbers of their lines. -/
def keyRows (lines : List Text) : List (Text × Nat) :=
  (lines.zipIdx 1).filter fun line => IsKeyRow line.1

/-- The key rows, each with the lines up to where its key is closed. -/
def keyBlocks (lines : List Text) : List ((Text × Nat) × List (Text × Nat)) :=
  (blocks (fun line : Text × Nat => ClosesKey line.1) (lines.zipIdx 1)).filter
    fun block => IsKeyRow block.1.1

variable (options : ReadOptions) (preprocessor : Preprocessor)

def entryOfBlock (block : (Text × Nat) × List (Text × Nat)) : Entry :=
  .ofFields preprocessor (Text.trim block.1.1) ((block.2.map Prod.fst).filterMap field?)

/-! ## Entries -/

theorem entriesOf_eq_nil {lines : List Text} (hlines : ∀ line ∈ lines, ¬ IsKeyRow line) :
    entriesOf preprocessor lines = [] := by
  unfold entriesOf
  rw [(blocks_eq_nil_iff lines).mpr hlines]
  rfl

theorem flatMap_sectionLines (lines : List Text) :
    ((sectionLines lines).flatMap fun part => entriesOf preprocessor part.2) =
      entriesOf preprocessor (frontLines lines) ++
        (blocks IsHeading lines).flatMap fun block => entriesOf preprocessor block.2 := by
  unfold sectionLines
  rw [List.flatMap_append, List.flatMap_map]
  congr 1
  by_cases hkey : ∃ line ∈ frontLines lines, IsKeyRow line
  · rw [if_pos hkey, List.flatMap_singleton]
  · have hnone : ∀ line ∈ frontLines lines, ¬ IsKeyRow line := by
      push Not at hkey
      exact hkey
    rw [if_neg hkey, entriesOf_eq_nil preprocessor hnone]
    rfl

theorem entries_catalogOf (lines : List Text) :
    (catalogOf preprocessor lines).entries =
      (keyBlocks lines).map (entryOfBlock preprocessor) := by
  have hblocks : (blocks ClosesKey lines).filter (fun block => IsKeyRow block.1) =
      (keyBlocks lines).map fun block => (block.1.1, block.2.map Prod.fst) := by
    have hnumbered := blocks_map ClosesKey Prod.fst (lines.zipIdx 1)
    rw [List.zipIdx_map_fst] at hnumbered
    rw [hnumbered, List.filter_map]
    rfl
  have hnested : (blocks ClosesKey lines).filter (fun block => IsKeyRow block.1) =
      blocks IsKeyRow (frontLines lines) ++
        (blocks IsHeading lines).flatMap fun block => blocks IsKeyRow block.2 :=
    filter_blocks_or IsHeading IsKeyRow (fun _ => IsHeading.not_isKeyRow) lines
  calc
    (catalogOf preprocessor lines).entries =
        (sectionLines lines).flatMap fun part => entriesOf preprocessor part.2 := by
      unfold catalogOf Catalog.entries sectionsOf
      rw [List.flatMap_map]
    _ = ((blocks ClosesKey lines).filter fun block => IsKeyRow block.1).map fun block =>
          .ofFields preprocessor (Text.trim block.1) (block.2.filterMap field?) := by
      rw [flatMap_sectionLines, hnested, List.map_append, List.map_flatMap]
      rfl
    _ = (keyBlocks lines).map (entryOfBlock preprocessor) := by
      rw [hblocks, List.map_map]
      rfl

theorem map_fst_keyBlocks (lines : List Text) :
    (keyBlocks lines).map Prod.fst = keyRows lines := by
  have hheads : (keyBlocks lines).map Prod.fst =
      ((blocks (fun line : Text × Nat => ClosesKey line.1) (lines.zipIdx 1)).map
        Prod.fst).filter fun line => IsKeyRow line.1 := by
    rw [List.filter_map]
    rfl
  rw [hheads, map_fst_blocks, List.filter_filter]
  apply List.filter_congr
  intro line _
  by_cases hkey : IsKeyRow line.1 <;> simp [hkey, ClosesKey]

theorem values_entryOfBlock_eq_nil_iff (block : (Text × Nat) × List (Text × Nat)) :
    (entryOfBlock preprocessor block).values = [] ↔
      ∀ row ∈ block.2, ¬ IsValueRow row.1 := by
  unfold entryOfBlock Entry.ofFields
  rw [List.map_eq_nil_iff, List.filter_eq_nil_iff]
  constructor
  · rintro hnone row hrow ⟨name, text, hfield, hkind⟩
    have hmem : (name, text) ∈ (block.2.map Prod.fst).filterMap field? :=
      List.mem_filterMap.mpr ⟨row.1, List.mem_map_of_mem hrow, hfield⟩
    exact hnone (name, text) hmem (decide_eq_true hkind)
  · intro hnone field hfield hkind
    obtain ⟨line, hline, hfield⟩ := List.mem_filterMap.mp hfield
    obtain ⟨row, hrow, rfl⟩ := List.mem_map.mp hline
    exact hnone row hrow ⟨field.1, field.2, hfield, of_decide_eq_true hkind⟩

/-! ## Reports -/

theorem noValues_not_mem_fieldProblems (key name text : Text) :
    Problem.noValues key ∉ Reading.fieldProblems preprocessor name text := by
  intro hmem
  rcases Reading.exists_of_mem_fieldProblems hmem with ⟨platform, heq⟩ | ⟨specifier, heq⟩
  · cases heq
  · cases heq

theorem noValues_not_mem_lineProblems (inEntry : Bool) (line key : Text) :
    Problem.noValues key ∉ lineProblems options preprocessor inEntry line := by
  unfold lineProblems
  cases Row.ofLine line with
  | field name text =>
      cases inEntry with
      | false => simp
      | true => exact noValues_not_mem_fieldProblems preprocessor key name text
  | noSeparator => cases inEntry <;> simp
  | mixedIndentation => cases options.lenientIndentation <;> simp
  | unexpectedIndentation width => cases options.lenientIndentation <;> simp
  | unindented => simp
  | skipped => simp
  | heading name => simp
  | key key => simp

theorem filter_bodyReports (part : Part (Text × Nat)) :
    ((bodyReports options preprocessor part).filter fun report => report.MissesValues) = [] := by
  rw [List.filter_eq_nil_iff]
  intro report hreport
  obtain ⟨line, -, hreport⟩ := List.mem_flatMap.mp hreport
  obtain ⟨problem, hproblem, rfl⟩ := List.mem_map.mp hreport
  rw [decide_eq_true_eq, Report.missesValues_iff]
  rintro ⟨key, rfl⟩
  exact noValues_not_mem_lineProblems options preprocessor _ line.1 key hproblem

/-- Of the reports on some parts, those about missing values are the ones made when
a key is closed. -/
theorem filter_flatMap_partReports (list : List (Part (Text × Nat))) :
    ((list.flatMap (partReports options preprocessor)).filter
        fun report => report.MissesValues) =
      list.flatMap fun part => OpenKey.closingReports (openKeyOf part) := by
  rw [List.filter_flatMap]
  apply List.flatMap_congr
  intro part _
  have hkeep : ∀ number key, decide (Report.mk number (.noValues key)).MissesValues = true := by
    intro number key
    rw [decide_eq_true_eq, Report.missesValues_iff]
    exact ⟨key, rfl⟩
  unfold partReports
  rw [List.filter_append, filter_bodyReports, OpenKey.filter_closingReports hkeep,
    List.nil_append]

theorem flatMap_closingReports_partsOf (lines : List Text) :
    ((partsOf lines).flatMap fun part => OpenKey.closingReports (openKeyOf part)) =
      ((keyBlocks lines).filter fun block =>
        (entryOfBlock preprocessor block).values = []).map fun block =>
          ⟨block.1.2, .noValues (Text.trim block.1.1)⟩ := by
  have hclosing : ∀ block : (Text × Nat) × List (Text × Nat),
      OpenKey.closingReports (openKeyOf (.ofBlock block)) =
        if IsKeyRow block.1.1 ∧ (entryOfBlock preprocessor block).values = [] then
          [⟨block.1.2, .noValues (Text.trim block.1.1)⟩]
        else [] := by
    intro block
    rw [closingReports_openKeyOf_ofBlock]
    simp only [values_entryOfBlock_eq_nil_iff]
  unfold partsOf parts keyBlocks
  rw [List.flatMap_cons, List.flatMap_map, List.filter_filter]
  simp only [hclosing]
  rw [flatMap_ite_singleton]
  simp only [Bool.decide_and, Bool.and_comm]
  rfl

/-- The entries of a document are those of its key rows.  The reports of missing
values are about the entries without values, in the same order, each with the
number of its key row. -/
theorem filter_missesValues_reports_read (lenient : Bool) (text : Text) :
    (read ⟨lenient, true⟩ preprocessor text).catalog.entries.map Entry.key =
        (keyRows (lines (dropByteOrderMark text))).map (fun row => Text.trim row.1) ∧
      ((read ⟨lenient, true⟩ preprocessor text).reports.filter
          fun report => report.MissesValues) =
        (((keyRows (lines (dropByteOrderMark text))).zip
          (read ⟨lenient, true⟩ preprocessor text).catalog.entries).filter
            fun pair => pair.2.values = []).map
              fun pair => ⟨pair.1.2, .noValues pair.2.key⟩ := by
  obtain ⟨closed, last, hparts, hreports⟩ :=
    exists_parts_reports_read ⟨lenient, true⟩ preprocessor text
  have hall : (read ⟨lenient, true⟩ preprocessor text).reports =
      (partsOf (lines (dropByteOrderMark text))).flatMap
        (partReports ⟨lenient, true⟩ preprocessor) := by
    rw [hreports, hparts, List.flatMap_append, List.flatMap_singleton]
    rfl
  rw [hall, filter_flatMap_partReports, flatMap_closingReports_partsOf preprocessor,
    catalog_read_eq_after, catalog_after, entries_catalogOf, ← map_fst_keyBlocks,
    List.zip_map', List.filter_map, List.map_map, List.map_map, List.map_map]
  exact ⟨rfl, rfl⟩

end Document

end MessageCatalog
