import MessageCatalog.Document.Row
import MessageCatalog.Proofs.Text.Splitting
import MessageCatalog.Proofs.Text.Trimming

/-!
# Kinds of lines

The rows of a document in the words of an author: a line counts if it is
neither blank nor a comment, and the spaces in front of it say what it is.
The classification of rows agrees with this description, one constructor for
each kind.
-/

namespace MessageCatalog

namespace Document

/-- A line that is neither blank nor a comment. -/
def Significant (line : Text) : Prop :=
  Text.trim line ≠ [] ∧ (Text.trim line).head? ≠ some '#'

/-- A line with exactly `width` spaces and no other white space in front. -/
def Indented (width : Nat) (line : Text) : Prop :=
  Text.leadingBlanks line = List.replicate width ' '

def IsHeading (line : Text) : Prop :=
  Significant line ∧ "===".toList <+: line

def IsKeyRow (line : Text) : Prop :=
  Significant line ∧ Indented 2 line

def IsFieldRow (line : Text) : Prop :=
  Significant line ∧ Indented 4 line

instance (line : Text) : Decidable (Significant line) :=
  inferInstanceAs (Decidable (_ ∧ _))

instance (width : Nat) (line : Text) : Decidable (Indented width line) :=
  inferInstanceAs (Decidable (_ = _))

instance (line : Text) : Decidable (IsHeading line) :=
  inferInstanceAs (Decidable (Significant line ∧ _))

instance (line : Text) : Decidable (IsKeyRow line) :=
  inferInstanceAs (Decidable (Significant line ∧ Indented 2 line))

instance (line : Text) : Decidable (IsFieldRow line) :=
  inferInstanceAs (Decidable (Significant line ∧ Indented 4 line))

/-- The name and the value of a field row: what stands before and after its
first equals sign, without blanks around and without one pair of double quotes
around the value. -/
def field? (line : Text) : Option (Text × Text) :=
  if IsFieldRow line then
    (Text.splitFirst? '=' (Text.trim line)).map fun parts =>
      (Text.trim parts.1, Row.unquote (Text.trim parts.2))
  else none

theorem Indented.unique {width other : Nat} {line : Text}
    (hwidth : Indented width line) (hother : Indented other line) : width = other := by
  have heq : List.replicate width ' ' = List.replicate other ' ' :=
    hwidth.symm.trans hother
  simpa using congrArg List.length heq

theorem IsHeading.indented {line : Text} (hline : IsHeading line) : Indented 0 line := by
  obtain ⟨rest, rfl⟩ := hline.2
  rfl

theorem IsHeading.not_isKeyRow {line : Text} (hline : IsHeading line) :
    ¬ IsKeyRow line := by
  intro hkey
  exact absurd (hline.indented.unique hkey.2) (by decide)

theorem IsHeading.not_isFieldRow {line : Text} (hline : IsHeading line) :
    ¬ IsFieldRow line := by
  intro hfield
  exact absurd (hline.indented.unique hfield.2) (by decide)

theorem IsKeyRow.not_isFieldRow {line : Text} (hline : IsKeyRow line) :
    ¬ IsFieldRow line := by
  intro hfield
  exact absurd (hline.2.unique hfield.2) (by decide)

theorem mem_trim_iff {c : Char} (hc : isBlank c = false) (line : Text) :
    c ∈ Text.trim line ↔ c ∈ line := by
  have hsplit := Text.leadingBlanks_append_trim_append_trailingBlanks line
  have hleading : c ∉ Text.leadingBlanks line := by
    intro hmem
    simpa [hc] using List.mem_takeWhile_imp hmem
  have htrailing : c ∉ Text.trailingBlanks line := by
    intro hmem
    simpa [hc] using List.mem_takeWhile_imp (List.mem_reverse.mp hmem)
  constructor
  · intro hmem
    rw [← hsplit]
    simp [hmem]
  · intro hmem
    rw [← hsplit] at hmem
    simpa [hleading, htrailing] using hmem

theorem field?_isSome_iff (line : Text) :
    (field? line).isSome ↔ IsFieldRow line ∧ '=' ∈ line := by
  unfold field?
  by_cases hfield : IsFieldRow line
  · rw [if_pos hfield, Option.isSome_map, ← mem_trim_iff (by decide) line]
    cases hsplit : Text.splitFirst? '=' (Text.trim line) with
    | none => simpa [hfield] using Text.splitFirst?_eq_none_iff.mp hsplit
    | some parts =>
        have hmem : ¬ '=' ∉ Text.trim line := by
          rw [← Text.splitFirst?_eq_none_iff, hsplit]
          simp
        simpa [hfield] using hmem
  · simp [hfield]

theorem isSkipped_eq_true_iff (line : Text) :
    Row.isSkipped line = true ↔ ¬ Significant line := by
  unfold Row.isSkipped Significant
  cases Text.trim line <;> simp

theorem indentation?_eq_some_iff (width : Nat) (line : Text) :
    Row.indentation? line = some width ↔ Indented width line := by
  unfold Row.indentation? Indented
  rw [List.eq_replicate_iff]
  by_cases hspaces : (Text.leadingBlanks line).all (· = ' ') = true
  · simp only [hspaces, if_true, Option.some.injEq]
    simp only [List.all_eq_true, decide_eq_true_eq] at hspaces
    exact ⟨fun hlength => ⟨hlength, hspaces⟩, fun h => h.1⟩
  · simp only [hspaces, Bool.false_eq_true, if_false, reduceCtorEq, false_iff]
    rintro ⟨-, hall⟩
    exact hspaces (by simpa using hall)

/-- What a row says about the line it was made from. -/
inductive LineKind (line : Text) : Row → Prop
  | skipped (hline : ¬ Significant line) : LineKind line .skipped
  | mixedIndentation (hline : Significant line)
      (hindent : ∀ width, ¬ Indented width line) : LineKind line .mixedIndentation
  | unexpectedIndentation (width : Nat) (hline : Significant line)
      (hindent : Indented width line) (hzero : width ≠ 0) (htwo : width ≠ 2)
      (hfour : width ≠ 4) : LineKind line (.unexpectedIndentation width)
  | unindented (hline : Significant line) (hindent : Indented 0 line)
      (hheading : ¬ IsHeading line) : LineKind line .unindented
  | heading (hline : IsHeading line) : LineKind line (.heading (Row.headingName line))
  | key (hline : IsKeyRow line) : LineKind line (.key (Text.trim line))
  | noSeparator (hline : IsFieldRow line) (hfield : field? line = none) :
      LineKind line .noSeparator
  | field (name value : Text) (hline : IsFieldRow line)
      (hfield : field? line = some (name, value)) : LineKind line (.field name value)

theorem lineKind_ofUnindented {line : Text} (hline : Significant line)
    (hindent : Indented 0 line) : LineKind line (Row.ofUnindented line) := by
  unfold Row.ofUnindented
  by_cases hprefix : "===".toList.isPrefixOf line = true
  · rw [if_pos hprefix]
    exact .heading ⟨hline, List.isPrefixOf_iff_prefix.mp hprefix⟩
  · rw [if_neg hprefix]
    refine .unindented hline hindent ?_
    intro hheading
    exact hprefix (List.isPrefixOf_iff_prefix.mpr hheading.2)

theorem lineKind_ofFieldLine {line : Text} (hline : IsFieldRow line) :
    LineKind line (Row.ofFieldLine line) := by
  unfold Row.ofFieldLine
  cases hsplit : Text.splitFirst? '=' (Text.trim line) with
  | none => exact .noSeparator hline (by simp [field?, hline, hsplit])
  | some parts => exact .field _ _ hline (by simp [field?, hline, hsplit])

theorem lineKind_ofLine (line : Text) : LineKind line (Row.ofLine line) := by
  unfold Row.ofLine
  by_cases hskipped : Row.isSkipped line = true
  · rw [if_pos hskipped]
    exact .skipped ((isSkipped_eq_true_iff line).mp hskipped)
  · have hline : Significant line := by
      by_contra hnot
      exact hskipped ((isSkipped_eq_true_iff line).mpr hnot)
    rw [if_neg hskipped]
    split
    · next hnone =>
        refine .mixedIndentation hline ?_
        intro width hindent
        rw [(indentation?_eq_some_iff width line).mpr hindent] at hnone
        cases hnone
    · next hzero =>
        exact lineKind_ofUnindented hline ((indentation?_eq_some_iff 0 line).mp hzero)
    · next htwo =>
        exact .key ⟨hline, (indentation?_eq_some_iff 2 line).mp htwo⟩
    · next hfour =>
        exact lineKind_ofFieldLine ⟨hline, (indentation?_eq_some_iff 4 line).mp hfour⟩
    · next width hzero htwo hfour hsome =>
        have hindent := (indentation?_eq_some_iff width line).mp hsome
        exact .unexpectedIndentation width hline hindent hzero htwo hfour

theorem Significant.not_isSkipped {line : Text} (hline : Significant line) :
    ¬ Row.isSkipped line = true := by
  rw [isSkipped_eq_true_iff, not_not]
  exact hline

theorem ofLine_of_isHeading {line : Text} (hline : IsHeading line) :
    Row.ofLine line = .heading (Row.headingName line) := by
  unfold Row.ofLine
  rw [if_neg hline.1.not_isSkipped, (indentation?_eq_some_iff 0 line).mpr hline.indented]
  exact if_pos (List.isPrefixOf_iff_prefix.mpr hline.2)

theorem ofLine_of_isKeyRow {line : Text} (hline : IsKeyRow line) :
    Row.ofLine line = .key (Text.trim line) := by
  unfold Row.ofLine
  rw [if_neg hline.1.not_isSkipped, (indentation?_eq_some_iff 2 line).mpr hline.2]
  rfl

theorem ofLine_of_field? {line name value : Text}
    (hfield : field? line = some (name, value)) : Row.ofLine line = .field name value := by
  have hline : IsFieldRow line := ((field?_isSome_iff line).mp (by rw [hfield]; rfl)).1
  unfold field? at hfield
  rw [if_pos hline] at hfield
  obtain ⟨parts, hsplit, heq⟩ := Option.map_eq_some_iff.mp hfield
  obtain ⟨rfl, rfl⟩ := Prod.mk.inj heq
  unfold Row.ofLine
  rw [if_neg hline.1.not_isSkipped, (indentation?_eq_some_iff 4 line).mpr hline.2]
  simp only [Row.ofFieldLine, hsplit]

end Document

end MessageCatalog
