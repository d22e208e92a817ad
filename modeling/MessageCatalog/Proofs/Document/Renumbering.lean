import MessageCatalog.Proofs.Document.Step

/-!
# Line numbers

Reading looks at line numbers only to write them down: in its reports and in the
open key, which may be reported later at the line where it stands.  So if the lines
of a document get other numbers, the same things are reported at the new ones.
Every number that reading writes down is that of a line it has read, and what has
been reported before has no influence on what comes next.
-/

namespace MessageCatalog

def Report.renumbered (rename : Nat → Nat) (report : Report) : Report :=
  ⟨rename report.line, report.problem⟩

def Outcome.renumbered (rename : Nat → Nat) (outcome : Outcome) : Outcome :=
  ⟨outcome.catalog, outcome.reports.map (.renumbered rename)⟩

/-! ## Renaming of numbers -/

namespace OpenKey

def renumbered (rename : Nat → Nat) (key : OpenKey) : OpenKey :=
  ⟨rename key.line, key.key, key.hasValues⟩

theorem closingReports_renumbered (rename : Nat → Nat) (openKey : Option OpenKey) :
    closingReports (openKey.map (renumbered rename)) =
      (closingReports openKey).map (.renumbered rename) := by
  cases openKey with
  | none => rfl
  | some key =>
      obtain ⟨line, key, hasValues⟩ := key
      cases hasValues <;> rfl

theorem afterRow_renumbered (rename : Nat → Nat) (number : Nat) (openKey : Option OpenKey)
    (row : Row) :
    afterRow (rename number) (openKey.map (renumbered rename)) row =
      (afterRow number openKey row).map (renumbered rename) := by
  cases row with
  | field name text =>
      cases openKey with
      | none => rfl
      | some key =>
          by_cases hkind : FieldKind.ofName name = .value <;>
            simp [afterRow, afterField, renumbered, hkind]
  | heading name => rfl
  | key key => rfl
  | skipped => rfl
  | mixedIndentation => rfl
  | unexpectedIndentation width => rfl
  | unindented => rfl
  | noSeparator => rfl

end OpenKey

namespace Reading

variable (options : ReadOptions) (preprocessor : Preprocessor) (rename : Nat → Nat)

theorem rowReports_renumbered (number : Nat) (openKey : Option OpenKey) (line : Text)
    (row : Row) :
    rowReports options preprocessor (openKey.map (.renumbered rename)) (rename number) line row =
      (rowReports options preprocessor openKey number line row).map (.renumbered rename) := by
  cases row with
  | heading name => exact OpenKey.closingReports_renumbered rename openKey
  | key key => exact OpenKey.closingReports_renumbered rename openKey
  | skipped => rfl
  | mixedIndentation =>
      unfold rowReports
      cases options.lenientIndentation <;> rfl
  | unexpectedIndentation width =>
      unfold rowReports
      cases options.lenientIndentation <;> rfl
  | unindented => rfl
  | noSeparator => cases openKey <;> rfl
  | field name text =>
      cases openKey with
      | none => rfl
      | some key => simp [rowReports, Report.renumbered]

def renumbered (reading : Reading) : Reading :=
  ⟨reading.catalog, reading.reports.map (.renumbered rename),
    reading.openKey.map (.renumbered rename)⟩

theorem step_renumbered (reading : Reading) (number : Nat) (line : Text) :
    (reading.renumbered rename).step options preprocessor (rename number) line =
      (reading.step options preprocessor number line).renumbered rename := by
  rw [step_eq, step_eq]
  unfold renumbered
  rw [Option.isSome_map, rowReports_renumbered, OpenKey.afterRow_renumbered, List.map_append]

theorem steps_renumbered {number : Nat}
    (hrename : ∀ other, number ≤ other → rename (other + 1) = rename other + 1)
    (reading : Reading) (lines : List Text) :
    (reading.renumbered rename).steps options preprocessor (rename number) lines =
      (reading.steps options preprocessor number lines).renumbered rename := by
  induction lines generalizing reading number with
  | nil => rfl
  | cons line lines ih =>
      have hrest : ∀ other, number + 1 ≤ other → rename (other + 1) = rename other + 1 :=
        fun other hle => hrename other (Nat.le_of_succ_le hle)
      rw [steps, steps, step_renumbered, ← hrename number (Nat.le_refl number), ih hrest]

theorem finish_renumbered (reading : Reading) :
    (reading.renumbered rename).finish options = (reading.finish options).renumbered rename := by
  unfold finish
  split
  · rw [closeKey_eq, closeKey_eq]
    unfold renumbered
    rw [OpenKey.closingReports_renumbered, List.map_append]
    rfl
  · rfl

/-! ## Numbers of lines that were read -/

/-- All line numbers that have been written down satisfy a condition. -/
structure NumbersSatisfy (condition : Nat → Prop) (reading : Reading) : Prop where
  reports : ∀ report ∈ reading.reports, condition report.line
  openKey : ∀ key ∈ reading.openKey, condition key.line

end Reading

variable {condition : Nat → Prop}

theorem OpenKey.line_of_mem_closingReports {openKey : Option OpenKey}
    (hkey : ∀ key ∈ openKey, condition key.line) :
    ∀ report ∈ closingReports openKey, condition report.line := by
  intro report hreport
  cases openKey with
  | none => cases hreport
  | some key =>
      unfold closingReports at hreport
      dsimp only at hreport
      split at hreport
      · cases hreport
      · rw [List.mem_singleton.mp hreport]
        exact hkey key rfl

theorem OpenKey.line_of_mem_afterRow {openKey : Option OpenKey} {number : Nat}
    (hkey : ∀ key ∈ openKey, condition key.line) (hnumber : condition number) (row : Row) :
    ∀ key ∈ afterRow number openKey row, condition key.line := by
  intro key hafter
  cases row with
  | heading name => cases hafter
  | key name =>
      cases hafter
      exact hnumber
  | field name text =>
      obtain ⟨before, hbefore, rfl⟩ := Option.map_eq_some_iff.mp hafter
      have hline : (afterField name before).line = before.line := by
        unfold afterField
        split <;> rfl
      rw [hline]
      exact hkey before hbefore
  | skipped => exact hkey key hafter
  | mixedIndentation => exact hkey key hafter
  | unexpectedIndentation width => exact hkey key hafter
  | unindented => exact hkey key hafter
  | noSeparator => exact hkey key hafter

namespace Reading

variable {options : ReadOptions} {preprocessor : Preprocessor}

theorem line_of_mem_rowReports {openKey : Option OpenKey} {number : Nat}
    (hkey : ∀ key ∈ openKey, condition key.line) (hnumber : condition number) (line : Text)
    (row : Row) :
    ∀ report ∈ rowReports options preprocessor openKey number line row,
      condition report.line := by
  intro report hreport
  cases row with
  | skipped => cases hreport
  | heading name => exact OpenKey.line_of_mem_closingReports hkey report hreport
  | key key => exact OpenKey.line_of_mem_closingReports hkey report hreport
  | unindented =>
      rw [List.mem_singleton.mp hreport]
      exact hnumber
  | mixedIndentation =>
      unfold rowReports at hreport
      dsimp only at hreport
      split at hreport
      · cases hreport
      · rw [List.mem_singleton.mp hreport]
        exact hnumber
  | unexpectedIndentation width =>
      unfold rowReports at hreport
      dsimp only at hreport
      split at hreport
      · cases hreport
      · rw [List.mem_singleton.mp hreport]
        exact hnumber
  | noSeparator =>
      unfold rowReports at hreport
      dsimp only at hreport
      split at hreport
      · rw [List.mem_singleton.mp hreport]
        exact hnumber
      · rw [List.mem_singleton.mp hreport]
        exact hnumber
  | field name text =>
      unfold rowReports at hreport
      dsimp only at hreport
      split at hreport
      · rw [List.mem_singleton.mp hreport]
        exact hnumber
      · obtain ⟨problem, -, rfl⟩ := List.mem_map.mp hreport
        exact hnumber

theorem NumbersSatisfy.step {reading : Reading} {number : Nat}
    (hreading : reading.NumbersSatisfy condition) (hnumber : condition number) (line : Text) :
    (reading.step options preprocessor number line).NumbersSatisfy condition := by
  rw [step_eq]
  refine ⟨?_, OpenKey.line_of_mem_afterRow hreading.openKey hnumber _⟩
  intro report hreport
  rcases List.mem_append.mp hreport with hearlier | hrow
  · exact hreading.reports report hearlier
  · exact line_of_mem_rowReports hreading.openKey hnumber line _ report hrow

theorem NumbersSatisfy.steps {reading : Reading} {number : Nat} {lines : List Text}
    (hreading : reading.NumbersSatisfy condition)
    (hnumbers : ∀ other, number ≤ other → other < number + lines.length → condition other) :
    (reading.steps options preprocessor number lines).NumbersSatisfy condition := by
  induction lines generalizing reading number with
  | nil => exact hreading
  | cons line lines ih =>
      rw [List.length_cons] at hnumbers
      apply ih
      · exact hreading.step (hnumbers number (Nat.le_refl number) (by omega)) line
      · intro other hle hlt
        exact hnumbers other (by omega) (by omega)

theorem NumbersSatisfy.finish {reading : Reading}
    (hreading : reading.NumbersSatisfy condition) :
    (reading.finish options).NumbersSatisfy condition := by
  unfold Reading.finish
  split
  · rw [closeKey_eq]
    refine ⟨?_, by simp⟩
    intro report hreport
    rcases List.mem_append.mp hreport with hearlier | hclosing
    · exact hreading.reports report hearlier
    · exact OpenKey.line_of_mem_closingReports hreading.openKey report hclosing
  · exact hreading

theorem NumbersSatisfy.imp {other : Nat → Prop} {reading : Reading}
    (hreading : reading.NumbersSatisfy condition)
    (himp : ∀ number, condition number → other number) : reading.NumbersSatisfy other :=
  ⟨fun report hreport => himp _ (hreading.reports report hreport),
    fun key hkey => himp _ (hreading.openKey key hkey)⟩

theorem NumbersSatisfy.renumbered_eq_self {rename : Nat → Nat} {reading : Reading}
    (hreading : reading.NumbersSatisfy fun number => rename number = number) :
    reading.renumbered rename = reading := by
  obtain ⟨catalog, reports, openKey⟩ := reading
  have hreports : reports.map (.renumbered rename) = reports := by
    rw [List.map_congr_left (g := id), List.map_id]
    intro report hreport
    unfold Report.renumbered
    rw [hreading.reports report hreport]
    rfl
  have hkey : openKey.map (.renumbered rename) = openKey := by
    cases openKey with
    | none => rfl
    | some key =>
        unfold OpenKey.renumbered
        rw [Option.map_some, hreading.openKey key rfl]
  unfold renumbered
  rw [hreports, hkey]

/-- After some lines of a document all numbers are those of these lines. -/
theorem numbersSatisfy_after (options : ReadOptions) (preprocessor : Preprocessor)
    (lines : List Text) :
    (after options preprocessor lines).NumbersSatisfy fun number =>
      1 ≤ number ∧ number ≤ lines.length := by
  apply NumbersSatisfy.steps
  · exact ⟨by simp [start], by simp [start]⟩
  · intro other hle hlt
    omega

/-! ## Earlier reports -/

/-- The reading with other reports in front of its own. -/
def reportedAfter (earlier : List Report) (reading : Reading) : Reading :=
  { reading with reports := earlier ++ reading.reports }

theorem steps_reportedAfter (earlier : List Report) (reading : Reading) (number : Nat)
    (lines : List Text) :
    (reading.reportedAfter earlier).steps options preprocessor number lines =
      (reading.steps options preprocessor number lines).reportedAfter earlier := by
  induction lines generalizing reading number with
  | nil => rfl
  | cons line lines ih =>
      have hstep : (reading.reportedAfter earlier).step options preprocessor number line =
          (reading.step options preprocessor number line).reportedAfter earlier := by
        rw [step_eq, step_eq]
        unfold reportedAfter
        rw [List.append_assoc]
      rw [Reading.steps, Reading.steps, hstep, ih]

theorem finish_reportedAfter (earlier : List Report) (reading : Reading) :
    (reading.reportedAfter earlier).finish options =
      (reading.finish options).reportedAfter earlier := by
  unfold Reading.finish
  split
  · rw [closeKey_eq, closeKey_eq]
    unfold reportedAfter
    rw [List.append_assoc]
  · rfl

end Reading

end MessageCatalog
