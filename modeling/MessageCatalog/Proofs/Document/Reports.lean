import MessageCatalog.Proofs.Document.Grammar
import MessageCatalog.Proofs.List.Parts

/-!
# The reports on a document

A heading or a key row closes the key before it, and so do the lines of a
document fall into parts.  In each part the lines are reported on one by one,
and at its end, when the key is closed, the missing values of the key.

The open key is all that reading remembers of the lines before.  It is the key
of the last part, and it has values if there is a value row in that part,
whatever else has been reported there.  The induction from the front carries
this fact along with the reports.
-/

namespace MessageCatalog

namespace Document

/-- A line at which an open key is closed. -/
def ClosesKey (line : Text) : Prop := IsHeading line ∨ IsKeyRow line

instance (line : Text) : Decidable (ClosesKey line) :=
  inferInstanceAs (Decidable (_ ∨ _))

theorem isValueRow_iff (line : Text) :
    IsValueRow line ↔ ∃ field ∈ field? line, FieldKind.ofName field.1 = .value := by
  unfold IsValueRow
  simp

instance (line : Text) : Decidable (IsValueRow line) :=
  decidable_of_iff _ (isValueRow_iff line).symm

/-- The lines with their numbers, cut where a key is closed. -/
def partsOf (lines : List Text) : List (Part (Text × Nat)) :=
  parts (fun line => ClosesKey line.1) (lines.zipIdx 1)

/-- The key of a part as it is open at the end of the part. -/
def openKeyOf (part : Part (Text × Nat)) : Option OpenKey :=
  part.head.bind fun head =>
    if IsKeyRow head.1 then
      some ⟨head.2, Text.trim head.1, part.body.any fun row => IsValueRow row.1⟩
    else none

/-- What is wrong with a line, depending on whether a key is open. -/
def lineProblems (options : ReadOptions) (preprocessor : Preprocessor) (inEntry : Bool)
    (line : Text) : List Problem :=
  match Row.ofLine line with
  | .skipped => []
  | .mixedIndentation =>
      if options.lenientIndentation then [] else [.mixedIndentation line]
  | .unexpectedIndentation width =>
      if options.lenientIndentation then [] else [.unexpectedIndentation width line]
  | .unindented => [.unindented line]
  | .heading _ => []
  | .key _ => []
  | .noSeparator => if inEntry then [.noSeparator line] else [.looseLine line]
  | .field name text =>
      if inEntry then Reading.fieldProblems preprocessor name text else [.looseLine line]

variable (options : ReadOptions) (preprocessor : Preprocessor)

def lineReports (inEntry : Bool) (line : Text × Nat) : List Report :=
  (lineProblems options preprocessor inEntry line.1).map (Report.mk line.2)

def bodyReports (part : Part (Text × Nat)) : List Report :=
  part.body.flatMap (lineReports options preprocessor (openKeyOf part).isSome)

/-- All reports on a part whose key is closed. -/
def partReports (part : Part (Text × Nat)) : List Report :=
  bodyReports options preprocessor part ++ OpenKey.closingReports (openKeyOf part)

/-! ## Single lines -/

theorem partsOf_concat_of_closesKey (lines : List Text) {line : Text}
    (hline : ClosesKey line) :
    partsOf (lines ++ [line]) =
      partsOf lines ++ [⟨some (line, 1 + lines.length), []⟩] := by
  unfold partsOf
  rw [List.zipIdx_append]
  exact parts_concat_of_head _ hline

theorem partsOf_concat_of_not_closesKey (lines : List Text) {line : Text}
    (hline : ¬ ClosesKey line) :
    partsOf (lines ++ [line]) =
      mapLast (Part.grow (line, 1 + lines.length)) (partsOf lines) := by
  unfold partsOf
  rw [List.zipIdx_append]
  exact parts_concat_of_not_head _ hline

theorem openKeyOf_grow (part : Part (Text × Nat)) (line : Text × Nat) :
    openKeyOf (part.grow line) = (openKeyOf part).map fun key =>
      { key with hasValues := key.hasValues || decide (IsValueRow line.1) } := by
  unfold openKeyOf Part.grow
  cases part.head with
  | none => rfl
  | some head => by_cases hkey : IsKeyRow head.1 <;> simp [hkey]

theorem isSome_openKeyOf_grow (part : Part (Text × Nat)) (line : Text × Nat) :
    (openKeyOf (part.grow line)).isSome = (openKeyOf part).isSome := by
  rw [openKeyOf_grow, Option.isSome_map]

theorem afterRow_of_closesKey {line : Text} (hline : ClosesKey line)
    (openKey : Option OpenKey) (number : Nat) :
    OpenKey.afterRow number openKey (Row.ofLine line) =
      openKeyOf ⟨some (line, number), []⟩ := by
  rcases hline with hheading | hkey
  · rw [ofLine_of_isHeading hheading]
    simp [OpenKey.afterRow, openKeyOf, hheading.not_isKeyRow]
  · rw [ofLine_of_isKeyRow hkey]
    simp [OpenKey.afterRow, openKeyOf, hkey]

theorem isSome_openKeyOf_ofBlock (block : (Text × Nat) × List (Text × Nat)) :
    (openKeyOf (.ofBlock block)).isSome = decide (IsKeyRow block.1.1) := by
  unfold openKeyOf Part.ofBlock
  by_cases hkey : IsKeyRow block.1.1 <;> simp [hkey]

/-- A key without a value row below it is reported when it is closed. -/
theorem closingReports_openKeyOf_ofBlock (block : (Text × Nat) × List (Text × Nat)) :
    OpenKey.closingReports (openKeyOf (.ofBlock block)) =
      if IsKeyRow block.1.1 ∧ ∀ row ∈ block.2, ¬ IsValueRow row.1 then
        [⟨block.1.2, .noValues (Text.trim block.1.1)⟩]
      else [] := by
  unfold openKeyOf Part.ofBlock
  by_cases hkey : IsKeyRow block.1.1
  · by_cases hvalues : (block.2.any fun row => IsValueRow row.1) = true
    · have hsome : ¬ ∀ row ∈ block.2, ¬ IsValueRow row.1 := by simpa using hvalues
      simp only [Option.bind_some, if_pos hkey, hvalues, hsome, and_false, if_false]
      rfl
    · have hnone : ∀ row ∈ block.2, ¬ IsValueRow row.1 := by simpa using hvalues
      simp only [Option.bind_some, if_pos hkey, if_pos (And.intro hkey hnone), hvalues]
      rfl
  · have hnot : ¬ (IsKeyRow block.1.1 ∧ ∀ row ∈ block.2, ¬ IsValueRow row.1) :=
      fun h => hkey h.1
    rw [if_neg hnot, Option.bind_some, if_neg hkey]
    rfl

theorem afterRow_of_field?_eq_none {line : Text} (hline : ¬ ClosesKey line)
    (hfield : field? line = none) :
    (∀ number openKey, OpenKey.afterRow number openKey (Row.ofLine line) = openKey) ∧
      ∀ preprocessor (catalog : Catalog) inBlock,
        catalog.afterRow preprocessor inBlock (Row.ofLine line) = catalog := by
  have hkind := lineKind_ofLine line
  generalize Row.ofLine line = row at hkind ⊢
  cases hkind with
  | heading hheading => exact absurd (Or.inl hheading) hline
  | key hkey => exact absurd (Or.inr hkey) hline
  | field name text hrow hsome =>
      rw [hfield] at hsome
      cases hsome
  | _ => exact ⟨fun _ _ => rfl, fun _ _ _ => rfl⟩

/-- Below its key row a key stays open, and gets values from value rows only. -/
theorem afterRow_eq_map {line : Text} (hline : ¬ ClosesKey line) (number : Nat)
    (openKey : Option OpenKey) :
    OpenKey.afterRow number openKey (Row.ofLine line) =
      openKey.map fun key =>
        { key with hasValues := key.hasValues || decide (IsValueRow line) } := by
  cases hfield : field? line with
  | none =>
      have hvalue : ¬ IsValueRow line := by
        rw [isValueRow_iff, hfield]
        simp
      rw [(afterRow_of_field?_eq_none hline hfield).1]
      simp [hvalue]
  | some field =>
      have hvalue : IsValueRow line ↔ FieldKind.ofName field.1 = .value := by
        rw [isValueRow_iff, hfield]
        simp
      have hdecide : decide (IsValueRow line) =
          decide (FieldKind.ofName field.1 = .value) := decide_eq_decide.mpr hvalue
      rw [ofLine_of_field? hfield, hdecide]
      cases openKey with
      | none => rfl
      | some key =>
          by_cases hkind : FieldKind.ofName field.1 = .value <;>
            simp [OpenKey.afterRow, OpenKey.afterField, hkind]

theorem afterRow_of_not_closesKey {line : Text} (hline : ¬ ClosesKey line)
    (part : Part (Text × Nat)) (number : Nat) :
    OpenKey.afterRow number (openKeyOf part) (Row.ofLine line) =
      openKeyOf (part.grow (line, number)) := by
  rw [afterRow_eq_map hline, openKeyOf_grow]

theorem rowReports_of_closesKey {line : Text} (hline : ClosesKey line)
    (openKey : Option OpenKey) (number : Nat) :
    Reading.rowReports options preprocessor openKey number line (Row.ofLine line) =
      OpenKey.closingReports openKey := by
  rcases hline with hheading | hkey
  · rw [ofLine_of_isHeading hheading]
    rfl
  · rw [ofLine_of_isKeyRow hkey]
    rfl

theorem rowReports_of_not_closesKey {line : Text} (hline : ¬ ClosesKey line)
    (openKey : Option OpenKey) (number : Nat) :
    Reading.rowReports options preprocessor openKey number line (Row.ofLine line) =
      lineReports options preprocessor openKey.isSome (line, number) := by
  have hkind := lineKind_ofLine line
  unfold lineReports lineProblems
  generalize Row.ofLine line = row at hkind ⊢
  cases hkind with
  | heading hheading => exact absurd (Or.inl hheading) hline
  | key hkey => exact absurd (Or.inr hkey) hline
  | skipped hline => rfl
  | mixedIndentation hline hindent =>
      by_cases hlenient : options.lenientIndentation = true <;>
        simp [Reading.rowReports, hlenient]
  | unexpectedIndentation width hline hindent hzero htwo hfour =>
      by_cases hlenient : options.lenientIndentation = true <;>
        simp [Reading.rowReports, hlenient]
  | unindented hline hindent hheading => rfl
  | noSeparator hline hfield => cases openKey <;> simp [Reading.rowReports]
  | field name text hline hfield => cases openKey <;> simp [Reading.rowReports]

/-! ## Whole documents -/

/-- What has been reported after some lines, and which key is open then. -/
theorem exists_parts_after (lines : List Text) :
    ∃ closed last, partsOf lines = closed ++ [last] ∧
      (Reading.after options preprocessor lines).openKey = openKeyOf last ∧
      (Reading.after options preprocessor lines).reports =
        closed.flatMap (partReports options preprocessor) ++
          bodyReports options preprocessor last := by
  induction lines using List.reverseRecOn with
  | nil => exact ⟨[], ⟨none, []⟩, rfl, rfl, rfl⟩
  | append_singleton lines line ih =>
      obtain ⟨closed, last, hparts, hkey, hreports⟩ := ih
      rw [Reading.after_concat, Reading.step_eq, hkey, hreports]
      -- A line that closes the key completes the last part and begins one; any other
      -- line is added to the last part, and leaves its key as open as it was.
      by_cases hline : ClosesKey line
      · refine ⟨closed ++ [last], ⟨some (line, 1 + lines.length), []⟩, ?_, ?_, ?_⟩
        · rw [partsOf_concat_of_closesKey lines hline, hparts]
        · exact afterRow_of_closesKey hline _ _
        · rw [rowReports_of_closesKey options preprocessor hline]
          simp [partReports, bodyReports]
      · refine ⟨closed, last.grow (line, 1 + lines.length), ?_, ?_, ?_⟩
        · rw [partsOf_concat_of_not_closesKey lines hline, hparts, mapLast_append_singleton]
        · exact afterRow_of_not_closesKey hline _ _
        · rw [rowReports_of_not_closesKey options preprocessor hline]
          unfold bodyReports
          rw [isSome_openKeyOf_grow]
          simp [Part.grow]

/-- The reports on a document, part by part.  Only the key of the last part may
stay open. -/
theorem exists_parts_reports_read (text : Text) :
    ∃ closed last, partsOf (lines (dropByteOrderMark text)) = closed ++ [last] ∧
      (read options preprocessor text).reports =
        closed.flatMap (partReports options preprocessor) ++
          if options.requireValuesAtEnd then partReports options preprocessor last
          else bodyReports options preprocessor last := by
  obtain ⟨closed, last, hparts, hkey, hreports⟩ :=
    exists_parts_after options preprocessor (lines (dropByteOrderMark text))
  refine ⟨closed, last, hparts, ?_⟩
  rw [reports_read_eq_after, hkey, hreports]
  by_cases hrequire : options.requireValuesAtEnd = true <;> simp [hrequire, partReports]

end Document

end MessageCatalog
