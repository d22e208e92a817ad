import MessageCatalog.Proofs.Document.Composition
import MessageCatalog.Proofs.Document.Message
import MessageCatalog.Proofs.List.Position
import MessageCatalog.Proofs.Text.Joining

/-!
# Lines that are passed over

A line that is none of the rows of a document is reported and passed over.  Its
report is all that it leaves: the open key stays open, with or without values, and
the catalog is as it was.  Such a line might as well be empty.

This is shown for one line first, and then along the lines of a document.  The
reading of the document and that of the document with some of these lines empty
are at the same catalog and the same open key after every line, and their reports
differ by those on the empty lines.
-/

namespace MessageCatalog

theorem OpenKey.not_mem_closingReports {report : Report}
    (hrejects : report.problem.isRejection = true) (openKey : Option OpenKey) :
    report ∉ closingReports openKey := by
  intro hmem
  unfold closingReports at hmem
  split at hmem
  · cases hmem
  · split at hmem
    · cases hmem
    · rw [List.mem_singleton.mp hmem] at hrejects
      contradiction

namespace Reading

variable {options : ReadOptions} {preprocessor : Preprocessor}

/-- A report that rejects a line is the only one on it, and the row changes nothing. -/
theorem rowReports_of_isRejection {openKey : Option OpenKey} {number : Nat} {line : Text}
    {row : Row} {report : Report}
    (hreport : report ∈ rowReports options preprocessor openKey number line row)
    (hrejects : report.problem.isRejection = true) :
    rowReports options preprocessor openKey number line row = [report] ∧
      report.line = number ∧ OpenKey.afterRow number openKey row = openKey ∧
      ∀ catalog : Catalog, catalog.afterRow preprocessor openKey.isSome row = catalog := by
  have hclosing : report ∉ OpenKey.closingReports openKey :=
    OpenKey.not_mem_closingReports hrejects openKey
  cases row with
  | skipped => cases hreport
  | mixedIndentation =>
      by_cases hlenient : options.lenientIndentation = true
      · simp [rowReports, hlenient] at hreport
      · have hrow : rowReports options preprocessor openKey number line (.mixedIndentation) =
            [⟨number, .mixedIndentation line⟩] := if_neg hlenient
        rw [hrow] at hreport ⊢
        obtain rfl := List.mem_singleton.mp hreport
        exact ⟨rfl, rfl, rfl, fun _ => rfl⟩
  | unexpectedIndentation width =>
      by_cases hlenient : options.lenientIndentation = true
      · simp [rowReports, hlenient] at hreport
      · have hrow :
            rowReports options preprocessor openKey number line (.unexpectedIndentation width) =
            [⟨number, .unexpectedIndentation width line⟩] := if_neg hlenient
        rw [hrow] at hreport ⊢
        obtain rfl := List.mem_singleton.mp hreport
        exact ⟨rfl, rfl, rfl, fun _ => rfl⟩
  | unindented =>
      obtain rfl := List.mem_singleton.mp hreport
      exact ⟨rfl, rfl, rfl, fun _ => rfl⟩
  | heading name => exact absurd hreport hclosing
  | key key => exact absurd hreport hclosing
  | noSeparator =>
      cases openKey with
      | none =>
          obtain rfl := List.mem_singleton.mp hreport
          exact ⟨rfl, rfl, rfl, fun _ => rfl⟩
      | some key =>
          obtain rfl := List.mem_singleton.mp hreport
          exact ⟨rfl, rfl, rfl, fun _ => rfl⟩
  | field name text =>
      cases openKey with
      | none =>
          obtain rfl := List.mem_singleton.mp hreport
          exact ⟨rfl, rfl, rfl, fun _ => rfl⟩
      | some key =>
          obtain ⟨problem, hproblem, rfl⟩ := List.mem_map.mp hreport
          rcases exists_of_mem_fieldProblems hproblem with ⟨platform, rfl⟩ | ⟨specifier, rfl⟩
          · contradiction
          · contradiction

theorem exists_of_mem_reports_after {lines : List Text} {report : Report}
    (hreport : report ∈ (after options preprocessor lines).reports)
    (hrejects : report.problem.isRejection = true) :
    ∃ before line rest, lines = before ++ line :: rest ∧ report.line = before.length + 1 ∧
      report ∈ rowReports options preprocessor (after options preprocessor before).openKey
        report.line line (Row.ofLine line) := by
  induction lines using List.reverseRecOn with
  | nil => cases hreport
  | append_singleton lines line ih =>
      rw [after_concat, step_eq, List.mem_append] at hreport
      rcases hreport with hearlier | hlast
      · obtain ⟨before, earlier, rest, rfl, hline, hrow⟩ := ih hearlier
        refine ⟨before, earlier, rest ++ [line], ?_, hline, hrow⟩
        rw [List.append_assoc, List.cons_append]
      · have hline := (rowReports_of_isRejection hlast hrejects).2.1
        refine ⟨lines, line, [], rfl, ?_, ?_⟩
        · rw [hline, Nat.add_comm]
        · rwa [hline]

/-- The reading without the reports that reject lines of some numbers. -/
def withoutRejections (numbers : List Nat) (reading : Reading) : Reading :=
  { reading with
    reports := reading.reports.filter fun report =>
      ¬ (report.line ∈ numbers ∧ report.problem.isRejection = true) }

theorem step_nil (reading : Reading) (number : Nat) :
    reading.step options preprocessor number [] = reading := rfl

theorem withoutRejections_step_of_isRejection {numbers : List Nat} {reading : Reading}
    {number : Nat} {line : Text} {report : Report} (hnumber : number ∈ numbers)
    (hreport : report ∈
      rowReports options preprocessor reading.openKey number line (Row.ofLine line))
    (hrejects : report.problem.isRejection = true) :
    (reading.step options preprocessor number line).withoutRejections numbers =
      reading.withoutRejections numbers := by
  obtain ⟨hrow, hline, hkey, hcatalog⟩ := rowReports_of_isRejection hreport hrejects
  rw [step_eq, hrow, hkey, hcatalog]
  unfold withoutRejections
  dsimp only
  rw [List.filter_append, List.filter_singleton, hline]
  simp [hnumber, hrejects]

theorem step_withoutRejections {numbers : List Nat} {number : Nat} (hnumber : number ∉ numbers)
    (reading : Reading) (line : Text) :
    (reading.withoutRejections numbers).step options preprocessor number line =
      (reading.step options preprocessor number line).withoutRejections numbers := by
  rw [step_eq, step_eq]
  unfold withoutRejections
  dsimp only
  rw [List.filter_append]
  congr 2
  symm
  rw [List.filter_eq_self]
  intro report hreport
  rw [decide_eq_true_eq]
  rintro ⟨hline, hrejects⟩
  rw [(rowReports_of_isRejection hreport hrejects).2.1] at hline
  exact hnumber hline

end Reading

namespace Document

variable {options : ReadOptions} {preprocessor : Preprocessor}

/-- The lines, from a line of some number on, where those of certain numbers are empty. -/
def withEmpty (numbers : List Nat) (number : Nat) (lines : List Text) : List Text :=
  (lines.zipIdx number).map fun line => if line.2 ∈ numbers then [] else line.1

theorem withEmpty_append (numbers : List Nat) (number : Nat) (lines more : List Text) :
    withEmpty numbers number (lines ++ more) =
      withEmpty numbers number lines ++ withEmpty numbers (number + lines.length) more := by
  unfold withEmpty
  rw [List.zipIdx_append, List.map_append]

theorem length_withEmpty (numbers : List Nat) (number : Nat) (lines : List Text) :
    (withEmpty numbers number lines).length = lines.length := by
  unfold withEmpty
  rw [List.length_map, List.length_zipIdx]

@[simp] theorem withEmpty_nil (numbers : List Nat) (number : Nat) :
    withEmpty numbers number [] = [] := rfl

@[simp] theorem withEmpty_singleton (numbers : List Nat) (number : Nat) (line : Text) :
    withEmpty numbers number [line] = [if number ∈ numbers then [] else line] := rfl

/-- The induction is on the lines from the end, since whether a line is rejected depends
on the key that is open after the lines before it. -/
theorem after_withEmpty {numbers : List Nat} {lines : List Text}
    (hrejected : ∀ before line rest, lines = before ++ line :: rest →
      before.length + 1 ∈ numbers →
        ∃ report ∈ Reading.rowReports options preprocessor
            (Reading.after options preprocessor before).openKey (before.length + 1) line
            (Row.ofLine line), report.problem.isRejection = true) :
    Reading.after options preprocessor (withEmpty numbers 1 lines) =
      (Reading.after options preprocessor lines).withoutRejections numbers := by
  induction lines using List.reverseRecOn with
  | nil => rfl
  | append_singleton lines line ih =>
      rw [forall_position_concat] at hrejected
      obtain ⟨hearlier, hlast⟩ := hrejected
      have hlines : Reading.after options preprocessor (withEmpty numbers 1 lines) =
          (Reading.after options preprocessor lines).withoutRejections numbers := ih hearlier
      rw [Nat.add_comm] at hlast
      rw [withEmpty_append, withEmpty_singleton, Reading.after_concat, Reading.after_concat,
        length_withEmpty, hlines]
      by_cases hnumber : 1 + lines.length ∈ numbers
      · obtain ⟨report, hreport, hrejects⟩ := hlast hnumber
        rw [if_pos hnumber, Reading.step_nil]
        exact (Reading.withoutRejections_step_of_isRejection hnumber hreport hrejects).symm
      · rw [if_neg hnumber]
        exact Reading.step_withoutRejections hnumber _ line

/-! ## Texts with empty lines -/

/-- What is left of a line that is made empty: the carriage return that belongs to the
line feed behind it. -/
def emptyLine (line : Text) : Text := if line.getLast? = some '\r' then ['\r'] else []

def emptyPieces (numbers : List Nat) : Nat → List Text → List Text
  | _, [] => []
  | number, [last] => [if number ∈ numbers then [] else last]
  | number, line :: next :: rest =>
      (if number ∈ numbers then emptyLine line else line) ::
        emptyPieces numbers (number + 1) (next :: rest)

def emptyLines (numbers : List Nat) (text : Text) : Text :=
  let emptied :=
    Text.join ['\n'] (emptyPieces numbers 1 (Text.splitOn '\n' (dropByteOrderMark text)))
  if text.head? = some '\uFEFF' then '\uFEFF' :: emptied else emptied

theorem dropReturn_emptyLine (line : Text) : dropReturn (emptyLine line) = [] := by
  unfold emptyLine
  split
  · rfl
  · rfl

theorem emptyPieces_ne_nil (numbers : List Nat) (number : Nat) {pieces : List Text}
    (hpieces : pieces ≠ []) : emptyPieces numbers number pieces ≠ [] := by
  match pieces with
  | [] => exact absurd rfl hpieces
  | [_] => exact List.cons_ne_nil _ _
  | _ :: _ :: _ => exact List.cons_ne_nil _ _

theorem not_mem_of_mem_emptyPieces {numbers : List Nat} {number : Nat} {pieces : List Text}
    (hpieces : ∀ piece ∈ pieces, '\n' ∉ piece) :
    ∀ piece ∈ emptyPieces numbers number pieces, '\n' ∉ piece := by
  induction pieces generalizing number with
  | nil => exact hpieces
  | cons piece pieces ih =>
      have hpiece : '\n' ∉ piece := hpieces piece List.mem_cons_self
      cases pieces with
      | nil =>
          rw [emptyPieces, List.forall_mem_singleton]
          split
          · exact List.not_mem_nil
          · exact hpiece
      | cons next more =>
          rw [emptyPieces, List.forall_mem_cons]
          constructor
          · unfold emptyLine
            split
            · split
              · decide
              · exact List.not_mem_nil
            · exact hpiece
          · apply ih
            intro other hother
            exact hpieces other (List.mem_cons_of_mem piece hother)

/-- The last line is no line any more when it is empty, unless a line feed ends it. -/
theorem exists_withEmpty_linesOfPieces (numbers : List Nat) (number : Nat)
    (pieces : List Text) :
    ∃ blank, (∀ line ∈ blank, ¬ Significant line) ∧
      withEmpty numbers number (linesOfPieces pieces) =
        linesOfPieces (emptyPieces numbers number pieces) ++ blank := by
  induction pieces generalizing number with
  | nil => exact ⟨[], by simp, rfl⟩
  | cons piece pieces ih =>
      cases pieces with
      | nil =>
          by_cases hnumber : number ∈ numbers
          · have hnil : ¬ Significant [] := by decide
            refine ⟨withEmpty numbers number (linesOfPieces [piece]), ?_, ?_⟩
            · unfold linesOfPieces
              split
              · simp
              · simp [hnumber, hnil]
            · rw [emptyPieces, if_pos hnumber]
              rfl
          · refine ⟨[], by simp, ?_⟩
            rw [emptyPieces, if_neg hnumber, List.append_nil]
            unfold linesOfPieces
            split
            · rfl
            · rw [withEmpty_singleton, if_neg hnumber]
      | cons next more =>
          obtain ⟨blank, hblank, hrest⟩ := ih (number + 1)
          refine ⟨blank, hblank, ?_⟩
          have hlines := linesOfPieces_append [piece] (List.cons_ne_nil next more)
          have hemptied := linesOfPieces_append
            [if number ∈ numbers then emptyLine piece else piece]
            (emptyPieces_ne_nil numbers (number + 1) (List.cons_ne_nil next more))
          have hfirst : withEmpty numbers number [dropReturn piece] =
              [dropReturn (if number ∈ numbers then emptyLine piece else piece)] := by
            rw [withEmpty_singleton]
            split
            · rw [dropReturn_emptyLine]
            · rfl
          rw [List.singleton_append, List.map_singleton] at hlines hemptied
          rw [hlines, withEmpty_append, emptyPieces, hemptied, hfirst, List.length_singleton,
            hrest, List.append_assoc]

theorem head?_of_head?_emptyPieces {numbers : List Nat} {number : Nat} {text first : Text}
    {rest : List Text}
    (hpieces : emptyPieces numbers number (Text.splitOn '\n' text) = first :: rest) {c : Char}
    (hreturn : c ≠ '\r') (hfirst : first.head? = some c) : text.head? = some c := by
  obtain ⟨piece, pieces, hsplit⟩ := List.exists_cons_of_ne_nil (Text.splitOn_ne_nil '\n' text)
  have hsame : first = [] ∨ first = ['\r'] ∨ first = piece := by
    rw [hsplit] at hpieces
    cases pieces with
    | nil =>
        rw [emptyPieces, List.cons.injEq] at hpieces
        rw [← hpieces.1]
        split <;> simp
    | cons next more =>
        rw [emptyPieces, List.cons.injEq] at hpieces
        rw [← hpieces.1]
        unfold emptyLine
        split
        · split <;> simp
        · simp
  rcases hsame with rfl | rfl | rfl
  · cases hfirst
  · exact absurd (Option.some.inj hfirst).symm hreturn
  · exact Text.head?_of_splitOn hsplit hfirst

theorem dropByteOrderMark_emptyLines (numbers : List Nat) (text : Text) :
    dropByteOrderMark (emptyLines numbers text) =
      Text.join ['\n']
        (emptyPieces numbers 1 (Text.splitOn '\n' (dropByteOrderMark text))) := by
  unfold emptyLines
  dsimp only
  split
  · rfl
  · next hmark =>
      have hsame := dropByteOrderMark_eq_self hmark
      rw [hsame]
      apply dropByteOrderMark_eq_self
      intro hhead
      obtain ⟨first, rest, hpieces⟩ := List.exists_cons_of_ne_nil
        (emptyPieces_ne_nil numbers 1 (Text.splitOn_ne_nil '\n' text))
      rw [hpieces] at hhead
      have hfirst := Text.head?_of_head?_join (by decide) hhead
      exact hmark (head?_of_head?_emptyPieces hpieces (by decide) hfirst)

/-- Empty lines at the end of a document are read as nothing at all. -/
theorem after_emptyLines (options : ReadOptions) (preprocessor : Preprocessor)
    (numbers : List Nat) (text : Text) :
    Reading.after options preprocessor (lines (dropByteOrderMark (emptyLines numbers text))) =
      Reading.after options preprocessor
        (withEmpty numbers 1 (lines (dropByteOrderMark text))) := by
  have hpieces : ∀ piece ∈ Text.splitOn '\n' (dropByteOrderMark text), '\n' ∉ piece := by
    intro piece hpiece
    exact Text.not_mem_of_mem_splitOn hpiece
  have hlines : lines (dropByteOrderMark (emptyLines numbers text)) =
      linesOfPieces (emptyPieces numbers 1 (Text.splitOn '\n' (dropByteOrderMark text))) := by
    rw [dropByteOrderMark_emptyLines, lines, Text.splitOn_join]
    · exact emptyPieces_ne_nil numbers 1 (Text.splitOn_ne_nil '\n' _)
    · exact not_mem_of_mem_emptyPieces hpieces
  obtain ⟨blank, hblank, hempty⟩ := exists_withEmpty_linesOfPieces numbers 1
    (Text.splitOn '\n' (dropByteOrderMark text))
  have hwith : withEmpty numbers 1 (lines (dropByteOrderMark text)) =
      lines (dropByteOrderMark (emptyLines numbers text)) ++ blank := by
    rw [hlines]
    exact hempty
  unfold Reading.after
  rw [hwith, Reading.steps_append,
    Reading.steps_of_not_significant options preprocessor hblank]

theorem exists_of_mem_reports_read {text : Text} {report : Report}
    (hreport : report ∈ (read options preprocessor text).reports)
    (hrejects : report.problem.isRejection = true) :
    ∃ before line rest, lines (dropByteOrderMark text) = before ++ line :: rest ∧
      report.line = before.length + 1 ∧
      report ∈ Reading.rowReports options preprocessor
        (Reading.after options preprocessor before).openKey report.line line
        (Row.ofLine line) := by
  rw [reports_read_eq_after, List.mem_append] at hreport
  rcases hreport with hafter | hclosing
  · exact Reading.exists_of_mem_reports_after hafter hrejects
  · split at hclosing
    · exact absurd hclosing (OpenKey.not_mem_closingReports hrejects _)
    · cases hclosing

/-- Lines that are rejected may as well be empty: the catalog is the same, and so are all
other reports. -/
theorem read_emptyLines {text : Text} {numbers : List Nat}
    (hrejected : ∀ number ∈ numbers, ∃ report ∈ (read options preprocessor text).reports,
      report.line = number ∧ report.RejectsLine) :
    read options preprocessor (emptyLines numbers text) =
      ⟨(read options preprocessor text).catalog,
        (read options preprocessor text).reports.filter fun report =>
          ¬ (report.line ∈ numbers ∧ report.RejectsLine)⟩ := by
  have hafter : Reading.after options preprocessor
        (lines (dropByteOrderMark (emptyLines numbers text))) =
      (Reading.after options preprocessor
        (lines (dropByteOrderMark text))).withoutRejections numbers := by
    rw [after_emptyLines]
    apply after_withEmpty
    intro before line rest hlines hnumber
    obtain ⟨report, hreport, hline, hrejects⟩ := hrejected _ hnumber
    rw [Report.rejectsLine_iff] at hrejects
    obtain ⟨front, other, back, hother, hlength, hrow⟩ :=
      exists_of_mem_reports_read hreport hrejects
    rw [hlines] at hother
    obtain ⟨hfront, hback⟩ := List.append_inj hother (by omega)
    rw [hline, ← hfront, ← (List.cons.inj hback).1] at hrow
    exact ⟨report, hrow, hrejects⟩
  have hkeep : ∀ openKey : Option OpenKey,
      ((if options.requireValuesAtEnd then OpenKey.closingReports openKey else []).filter
          fun report => decide ¬ (report.line ∈ numbers ∧ report.problem.isRejection = true)) =
        if options.requireValuesAtEnd then OpenKey.closingReports openKey else [] := by
    intro openKey
    split
    · apply OpenKey.filter_closingReports
      intro number key
      simp [Problem.isRejection]
    · rfl
  have hcatalog : (read options preprocessor (emptyLines numbers text)).catalog =
      (read options preprocessor text).catalog := by
    rw [catalog_read_eq_after, catalog_read_eq_after, hafter]
    rfl
  have hreports : (read options preprocessor (emptyLines numbers text)).reports =
      (read options preprocessor text).reports.filter fun report =>
        ¬ (report.line ∈ numbers ∧ report.RejectsLine) := by
    simp only [Report.rejectsLine_iff]
    rw [reports_read_eq_after, reports_read_eq_after, hafter, List.filter_append, hkeep]
    rfl
  rw [← hcatalog, ← hreports]

/-- Six lines are reported here: five that are rejected, and the key `B`, which has no
values.  Between the key `A` and its value there are four of them. -/
def faultyText : Text :=
  "    en = x\n=== S ===\n  A\nen = x\n\ten = x\n   en = x\n    en\r\n    en = y\n  B".toList

theorem read_emptyLines_faultyText :
    (∀ number ∈ [1, 4, 5, 7], ∃ report ∈ (read .standard .identity faultyText).reports,
      report.line = number ∧ report.RejectsLine) ∧
      emptyLines [1, 4, 5, 7] faultyText =
        "\n=== S ===\n  A\n\n\n   en = x\n\r\n    en = y\n  B".toList ∧
      read .standard .identity (emptyLines [1, 4, 5, 7] faultyText) =
        ⟨(read .standard .identity faultyText).catalog,
          (read .standard .identity faultyText).reports.filter fun report =>
            ¬ (report.line ∈ [1, 4, 5, 7] ∧ report.RejectsLine)⟩ := by
  have hrejected : ∀ number ∈ [1, 4, 5, 7],
      ∃ report ∈ (read .standard .identity faultyText).reports,
        report.line = number ∧ report.RejectsLine := by
    decide +kernel
  exact ⟨hrejected, by decide +kernel, read_emptyLines hrejected⟩

end Document

end MessageCatalog
