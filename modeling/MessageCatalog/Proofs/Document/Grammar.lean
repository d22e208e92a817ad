import MessageCatalog.Proofs.Document.Line
import MessageCatalog.Proofs.Document.Step
import MessageCatalog.Proofs.List.Blocks
import MessageCatalog.Proofs.Placeholder.WellFormed

/-!
# The grammar of documents

A document is free of problems if every line that counts is indented as it
should, every field row belongs to a key and says something admissible, and
every key row has a value below it.  The conditions speak of the lines alone
and not of the state in which they are read.

Read line by line, such a condition is a question to the lines before.  All
that the reading keeps of them is the open key and whether it has values,
which is what the last block of lines tells: the block of the last heading or
key row.  The proof therefore follows the blocks, and takes the conditions of
the grammar apart only at the end.
-/

namespace MessageCatalog

namespace Document

/-- A line at which the lines of an earlier key end. -/
def BeginsBlock (line : Text) : Prop :=
  Significant line ∧ (Indented 0 line ∨ Indented 2 line)

instance (line : Text) : Decidable (BeginsBlock line) :=
  inferInstanceAs (Decidable (_ ∧ _))

/-- A field row with a value in some language. -/
def IsValueRow (line : Text) : Prop :=
  ∃ name text, field? line = some (name, text) ∧ FieldKind.ofName name = .value

def IsPlatformName (name : Text) : Prop :=
  ∃ platform : Platform, Text.asciiLower name = Text.asciiLower platform.name

/-- What a field has to be like, depending on its name. -/
def FieldAllowed (name text : Text) : Prop :=
  match FieldKind.ofName name with
  | .platforms => ∀ entry ∈ Text.listEntries text, IsPlatformName entry
  | .tags => True
  | .comment => True
  | .value =>
      ∀ body, Mark.specifier body ∈ Mark.ofText text → Specifier.WellFormed body

/-- The grammar of a list of lines. -/
structure Grammar (lines : List Text) : Prop where
  indentation : ∀ line ∈ lines, Significant line →
    Indented 0 line ∨ Indented 2 line ∨ Indented 4 line
  headings : ∀ line ∈ lines, Significant line → Indented 0 line → "===".toList <+: line
  /-- The nearest line before a field row that begins a block is a key row. -/
  fieldsBelong : ∀ before line after, lines = before ++ line :: after → IsFieldRow line →
    ∃ front key rest, before = front ++ key :: rest ∧ IsKeyRow key ∧
      ∀ other ∈ rest, ¬ BeginsBlock other
  fields : ∀ line ∈ lines, IsFieldRow line →
    ∃ name text, field? line = some (name, text) ∧ FieldAllowed name text
  /-- A key row has a value row in front of the next line that begins a block. -/
  keysHaveValues : ∀ before key after, lines = before ++ key :: after → IsKeyRow key →
    ∃ front row rest, after = front ++ row :: rest ∧
      (∀ other ∈ front, ¬ BeginsBlock other) ∧ IsValueRow row

/-! ## Single fields -/

theorem IsHeading.beginsBlock {line : Text} (hline : IsHeading line) : BeginsBlock line :=
  ⟨hline.1, Or.inl hline.indented⟩

theorem IsKeyRow.beginsBlock {line : Text} (hline : IsKeyRow line) : BeginsBlock line :=
  ⟨hline.1, Or.inr hline.2⟩

theorem IsFieldRow.not_beginsBlock {line : Text} (hline : IsFieldRow line) :
    ¬ BeginsBlock line := by
  rintro ⟨-, hindent | hindent⟩
  · exact absurd (hindent.unique hline.2) (by decide)
  · exact absurd (hindent.unique hline.2) (by decide)

theorem isFieldRow_of_field? {line name text : Text}
    (hfield : field? line = some (name, text)) : IsFieldRow line :=
  ((field?_isSome_iff line).mp (by rw [hfield]; rfl)).1

theorem IsValueRow.not_beginsBlock {line : Text} (hline : IsValueRow line) :
    ¬ BeginsBlock line := by
  obtain ⟨name, text, hfield, -⟩ := hline
  exact (isFieldRow_of_field? hfield).not_beginsBlock

theorem ofText?_isSome_iff {name : Text} (htrim : Text.trim name = name) :
    (Platform.ofText? name).isSome ↔ IsPlatformName name := by
  unfold Platform.ofText? IsPlatformName
  rw [htrim, List.find?_isSome]
  constructor
  · rintro ⟨platform, -, heq⟩
    exact ⟨platform, (of_decide_eq_true heq).symm⟩
  · rintro ⟨platform, heq⟩
    exact ⟨platform, by cases platform <;> decide, decide_eq_true heq.symm⟩

theorem trim_of_mem_listEntries {list entry : Text} (hmem : entry ∈ Text.listEntries list) :
    Text.trim entry = entry := by
  obtain ⟨piece, -, rfl⟩ := List.mem_map.mp (List.mem_filter.mp hmem).1
  exact Text.trim_trim piece

theorem unknownPlatforms_eq_nil_iff (list : Text) :
    Reading.unknownPlatforms (Text.listEntries list) = [] ↔
      ∀ entry ∈ Text.listEntries list, IsPlatformName entry := by
  unfold Reading.unknownPlatforms
  rw [List.map_eq_nil_iff, List.filter_eq_nil_iff]
  constructor
  · intro hnone entry hmem
    rw [← ofText?_isSome_iff (trim_of_mem_listEntries hmem)]
    simpa [Option.isSome_iff_ne_none] using hnone entry hmem
  · intro hall entry hmem
    have hsome := (ofText?_isSome_iff (trim_of_mem_listEntries hmem)).mpr (hall entry hmem)
    simpa [Option.isSome_iff_ne_none] using hsome

theorem fieldProblems_eq_nil_iff (name text : Text) :
    Reading.fieldProblems .identity name text = [] ↔ FieldAllowed name text := by
  unfold Reading.fieldProblems FieldAllowed
  cases FieldKind.ofName name with
  | platforms => exact unknownPlatforms_eq_nil_iff text
  | tags => exact iff_of_true rfl trivial
  | comment => exact iff_of_true rfl trivial
  | value =>
      rw [← Segment.problemsOf_eq_nil_iff]
      exact List.map_eq_nil_iff

end Document

/-! ## Single lines -/

namespace Document

/-- What a line has to be like after the given ones. -/
structure LineAllowed (before : List Text) (line : Text) : Prop where
  indentation : Significant line → Indented 0 line ∨ Indented 2 line ∨ Indented 4 line
  heading : Significant line → Indented 0 line → "===".toList <+: line
  belongs : IsFieldRow line →
    ∃ block ∈ (blocks BeginsBlock before).getLast?, IsKeyRow block.1
  field : IsFieldRow line →
    ∃ name text, field? line = some (name, text) ∧ FieldAllowed name text

/-- A block that has a value if it needs one. -/
def Complete (block : Text × List Text) : Prop :=
  IsKeyRow block.1 → ∃ row ∈ block.2, IsValueRow row

/-- The open key is that of the last block, and its values are those of the
block. -/
def Agrees (openKey : Option OpenKey) (last : Option (Text × List Text)) : Prop :=
  match openKey with
  | none => ∀ block ∈ last, ¬ IsKeyRow block.1
  | some key =>
      ∃ block ∈ last, IsKeyRow block.1 ∧
        (key.hasValues = true ↔ ∃ row ∈ block.2, IsValueRow row)

variable {openKey : Option OpenKey} {before : List Text}

theorem Agrees.closingReports_eq_nil_iff {last : Option (Text × List Text)}
    (hagrees : Agrees openKey last) :
    OpenKey.closingReports openKey = [] ↔ ∀ block ∈ last, Complete block := by
  unfold Agrees at hagrees
  unfold OpenKey.closingReports
  cases openKey with
  | none =>
      refine iff_of_true rfl ?_
      intro block hblock hkey
      exact absurd hkey (hagrees block hblock)
  | some key =>
      obtain ⟨block, hblock, hkey, hvalues⟩ := hagrees
      have hcomplete : (∀ other ∈ last, Complete other) ↔ key.hasValues = true := by
        rw [hvalues, Option.mem_def.mp hblock]
        constructor
        · intro hall
          exact hall block rfl hkey
        · intro hrow other hother _
          rwa [← Option.some.inj hother]
      rw [hcomplete]
      by_cases h : key.hasValues = true <;> simp [h]

theorem Agrees.isNone_iff {last : Option (Text × List Text)}
    (hagrees : Agrees openKey last) :
    openKey.isNone = true ↔ ¬ ∃ block ∈ last, IsKeyRow block.1 := by
  unfold Agrees at hagrees
  cases openKey with
  | none =>
      refine iff_of_true rfl ?_
      rintro ⟨block, hblock, hkey⟩
      exact hagrees block hblock hkey
  | some key =>
      obtain ⟨block, hblock, hkey, -⟩ := hagrees
      refine iff_of_false (by simp) ?_
      intro hnone
      exact hnone ⟨block, hblock, hkey⟩

theorem lineAllowed_of_not_significant {line : Text} (hline : ¬ Significant line) :
    LineAllowed before line :=
  ⟨fun h => absurd h hline, fun h => absurd h hline, fun h => absurd h.1 hline,
    fun h => absurd h.1 hline⟩

theorem lineAllowed_of_isHeading {line : Text} (hline : IsHeading line) :
    LineAllowed before line :=
  ⟨fun _ => Or.inl hline.indented, fun _ _ => hline.2,
    fun h => absurd h hline.not_isFieldRow, fun h => absurd h hline.not_isFieldRow⟩

theorem lineAllowed_of_isKeyRow {line : Text} (hline : IsKeyRow line) :
    LineAllowed before line :=
  ⟨fun _ => Or.inr (Or.inl hline.2),
    fun _ hzero => absurd (hzero.unique hline.2) (by decide),
    fun h => absurd h hline.not_isFieldRow, fun h => absurd h hline.not_isFieldRow⟩

theorem lineAllowed_iff_of_field {line name text : Text}
    (hfield : field? line = some (name, text)) :
    LineAllowed before line ↔
      (∃ block ∈ (blocks BeginsBlock before).getLast?, IsKeyRow block.1) ∧
        FieldAllowed name text := by
  have hline := isFieldRow_of_field? hfield
  constructor
  · intro hallowed
    obtain ⟨other, value, hother, hvalue⟩ := hallowed.field hline
    obtain ⟨rfl, rfl⟩ := Prod.mk.inj (Option.some.inj (hfield.symm.trans hother))
    exact ⟨hallowed.belongs hline, hvalue⟩
  · rintro ⟨hbelongs, hvalue⟩
    exact ⟨fun _ => Or.inr (Or.inr hline.2),
      fun _ hzero => absurd (hzero.unique hline.2) (by decide),
      fun _ => hbelongs, fun _ => ⟨name, text, hfield, hvalue⟩⟩

/-- A line is read without a report if it is allowed and ends a complete block if
it ends one. -/
theorem rowReports_eq_nil_iff
    (hagrees : Agrees openKey (blocks BeginsBlock before).getLast?) (number : Nat)
    (line : Text) :
    Reading.rowReports .standard .identity openKey number line (Row.ofLine line) = [] ↔
      LineAllowed before line ∧
        (BeginsBlock line → ∀ block ∈ (blocks BeginsBlock before).getLast?,
          Complete block) := by
  have hkind := lineKind_ofLine line
  generalize Row.ofLine line = row at hkind
  cases hkind with
  | skipped hline =>
      refine iff_of_true rfl ⟨lineAllowed_of_not_significant hline, ?_⟩
      intro hbegins
      exact absurd hbegins.1 hline
  | mixedIndentation hline hindent =>
      refine iff_of_false (by simp [Reading.rowReports, ReadOptions.standard]) ?_
      rintro ⟨hallowed, -⟩
      rcases hallowed.indentation hline with h | h | h
      · exact hindent 0 h
      · exact hindent 2 h
      · exact hindent 4 h
  | unexpectedIndentation width hline hindent hzero htwo hfour =>
      refine iff_of_false (by simp [Reading.rowReports, ReadOptions.standard]) ?_
      rintro ⟨hallowed, -⟩
      rcases hallowed.indentation hline with h | h | h
      · exact hzero (hindent.unique h)
      · exact htwo (hindent.unique h)
      · exact hfour (hindent.unique h)
  | unindented hline hindent hheading =>
      refine iff_of_false (by simp [Reading.rowReports]) ?_
      rintro ⟨hallowed, -⟩
      exact hheading ⟨hline, hallowed.heading hline hindent⟩
  | heading hline =>
      simp only [Reading.rowReports, hagrees.closingReports_eq_nil_iff,
        lineAllowed_of_isHeading hline, hline.beginsBlock, true_and, true_implies]
  | key hline =>
      simp only [Reading.rowReports, hagrees.closingReports_eq_nil_iff,
        lineAllowed_of_isKeyRow hline, hline.beginsBlock, true_and, true_implies]
  | noSeparator hline hfield =>
      refine iff_of_false ?_ ?_
      · unfold Reading.rowReports
        by_cases hkey : openKey.isNone = true <;> simp [hkey]
      · rintro ⟨hallowed, -⟩
        obtain ⟨name, text, hsome, -⟩ := hallowed.field hline
        rw [hfield] at hsome
        cases hsome
  | field name text hline hfield =>
      have hbegins : ¬ BeginsBlock line := hline.not_beginsBlock
      -- Without an open key the field is loose whatever it says.
      simp only [Reading.rowReports, lineAllowed_iff_of_field hfield,
        ← fieldProblems_eq_nil_iff]
      by_cases hkey : openKey.isNone = true
      · rw [if_pos hkey]
        refine iff_of_false (by simp) ?_
        rintro ⟨⟨hbelongs, -⟩, -⟩
        exact hagrees.isNone_iff.mp hkey hbelongs
      · have hbelongs := not_not.mp (mt hagrees.isNone_iff.mpr hkey)
        rw [if_neg hkey, List.map_eq_nil_iff]
        simp only [hbelongs, hbegins, true_and, false_implies, and_true]

theorem Agrees.concat {last : Option (Text × List Text)} {line : Text}
    (hagrees : Agrees openKey last) (hline : ¬ IsValueRow line) :
    Agrees openKey (last.map fun block => (block.1, block.2 ++ [line])) := by
  unfold Agrees at hagrees ⊢
  cases openKey with
  | none =>
      intro block hblock
      obtain ⟨shorter, hshorter, rfl⟩ := Option.map_eq_some_iff.mp hblock
      exact hagrees shorter hshorter
  | some key =>
      obtain ⟨block, hblock, hkey, hvalues⟩ := hagrees
      refine ⟨_, Option.map_eq_some_iff.mpr ⟨block, hblock, rfl⟩, hkey, ?_⟩
      rw [hvalues]
      simp [or_and_right, exists_or, hline]

theorem Agrees.concat_value {last : Option (Text × List Text)} {line : Text}
    (hagrees : Agrees openKey last) (hline : IsValueRow line) :
    Agrees (openKey.map fun key => { key with hasValues := true })
      (last.map fun block => (block.1, block.2 ++ [line])) := by
  unfold Agrees at hagrees ⊢
  cases openKey with
  | none =>
      intro block hblock
      obtain ⟨shorter, hshorter, rfl⟩ := Option.map_eq_some_iff.mp hblock
      exact hagrees shorter hshorter
  | some key =>
      obtain ⟨block, hblock, hkey, -⟩ := hagrees
      refine ⟨_, Option.map_eq_some_iff.mpr ⟨block, hblock, rfl⟩, hkey, ?_⟩
      exact iff_of_true rfl ⟨line, by simp, hline⟩

theorem agrees_afterRow (hagrees : Agrees openKey (blocks BeginsBlock before).getLast?)
    {line : Text} (hallowed : LineAllowed before line) (number : Nat) :
    Agrees (OpenKey.afterRow number openKey (Row.ofLine line))
      (blocks BeginsBlock (before ++ [line])).getLast? := by
  have hkind := lineKind_ofLine line
  generalize Row.ofLine line = row at hkind
  cases hkind with
  | skipped hline =>
      have hbegins : ¬ BeginsBlock line := fun h => hline h.1
      have hvalue : ¬ IsValueRow line := by
        rintro ⟨name, text, hfield, -⟩
        exact hline (isFieldRow_of_field? hfield).1
      rw [blocks_concat_of_not_head before hbegins, getLast?_mapLast]
      exact hagrees.concat hvalue
  | mixedIndentation hline hindent =>
      rcases hallowed.indentation hline with h | h | h
      · exact absurd h (hindent 0)
      · exact absurd h (hindent 2)
      · exact absurd h (hindent 4)
  | unexpectedIndentation width hline hindent hzero htwo hfour =>
      rcases hallowed.indentation hline with h | h | h
      · exact absurd (hindent.unique h) hzero
      · exact absurd (hindent.unique h) htwo
      · exact absurd (hindent.unique h) hfour
  | unindented hline hindent hheading =>
      exact absurd ⟨hline, hallowed.heading hline hindent⟩ hheading
  | heading hline =>
      rw [blocks_concat_of_head before hline.beginsBlock, List.getLast?_concat]
      intro block hblock
      rw [← Option.some.inj hblock]
      exact hline.not_isKeyRow
  | key hline =>
      rw [blocks_concat_of_head before hline.beginsBlock, List.getLast?_concat]
      exact ⟨(line, []), rfl, hline, by simp⟩
  | noSeparator hline hfield =>
      obtain ⟨name, text, hsome, -⟩ := hallowed.field hline
      rw [hfield] at hsome
      cases hsome
  | field name text hline hfield =>
      rw [blocks_concat_of_not_head before hline.not_beginsBlock, getLast?_mapLast]
      unfold OpenKey.afterRow OpenKey.afterField
      by_cases hkind : FieldKind.ofName name = .value
      · simp only [hkind, if_true]
        exact hagrees.concat_value ⟨name, text, hfield, hkind⟩
      · have hvalue : ¬ IsValueRow line := by
          rintro ⟨other, value, hother, hkind'⟩
          obtain ⟨rfl, rfl⟩ := Prod.mk.inj (Option.some.inj (hfield.symm.trans hother))
          exact hkind hkind'
        simp only [hkind, if_false, Option.map_id_fun', id]
        exact hagrees.concat hvalue

/-! ## Runs over several lines -/

/-- Every line is allowed after those before it, and every block that another
one follows is complete. -/
def AllowedSoFar (lines : List Text) : Prop :=
  (∀ before line after, lines = before ++ line :: after → LineAllowed before line) ∧
    ∀ block ∈ (blocks BeginsBlock lines).dropLast, Complete block

theorem forall_mem_dropLast_and_getLast? {α : Type} {condition : α → Prop} (list : List α) :
    (∀ x ∈ list, condition x) ↔
      (∀ x ∈ list.dropLast, condition x) ∧ ∀ x ∈ list.getLast?, condition x := by
  rcases List.eq_nil_or_concat' list with rfl | ⟨front, last, rfl⟩
  · simp
  · simp [or_imp, forall_and]

theorem allowedSoFar_concat (lines : List Text) (line : Text) :
    AllowedSoFar (lines ++ [line]) ↔
      AllowedSoFar lines ∧ LineAllowed lines line ∧
        (BeginsBlock line → ∀ block ∈ (blocks BeginsBlock lines).getLast?,
          Complete block) := by
  unfold AllowedSoFar
  rw [forall_position_concat]
  by_cases hbegins : BeginsBlock line
  · rw [blocks_concat_of_head lines hbegins, List.dropLast_concat,
      forall_mem_dropLast_and_getLast?]
    tauto
  · rw [blocks_concat_of_not_head lines hbegins, dropLast_mapLast]
    tauto

theorem reports_after_eq_nil_iff (lines : List Text) :
    ((Reading.after .standard .identity lines).reports = [] ↔ AllowedSoFar lines) ∧
      (AllowedSoFar lines →
        Agrees (Reading.after .standard .identity lines).openKey
          (blocks BeginsBlock lines).getLast?) := by
  induction lines using List.reverseRecOn with
  | nil =>
      refine ⟨iff_of_true rfl ⟨forall_position_nil, ?_⟩, ?_⟩
      · simp [blocks]
      · intro _ block hblock
        cases hblock
  | append_singleton lines line ih =>
      obtain ⟨hreports, hagrees⟩ := ih
      rw [Reading.after_concat, Reading.step_eq, allowedSoFar_concat]
      -- The open key agrees with the last block only as long as nothing has been
      -- reported: a line at the margin that is no heading begins a block, but the
      -- key stays open.
      constructor
      · rw [List.append_eq_nil_iff, hreports]
        refine and_congr_right fun hallowed => ?_
        exact rowReports_eq_nil_iff (hagrees hallowed) _ line
      · rintro ⟨hallowed, hline, -⟩
        exact agrees_afterRow (hagrees hallowed) hline _

/-! ## Whole documents -/

theorem grammar_iff (lines : List Text) :
    Grammar lines ↔
      (∀ before line after, lines = before ++ line :: after → LineAllowed before line) ∧
        ∀ block ∈ blocks BeginsBlock lines, Complete block := by
  unfold Complete
  rw [forall_blocks_iff lines (fun _ => IsKeyRow.beginsBlock)
    fun _ => IsValueRow.not_beginsBlock]
  constructor
  · intro hgrammar
    refine ⟨?_, hgrammar.keysHaveValues⟩
    intro before line after heq
    have hmem : line ∈ lines := by simp [heq]
    refine ⟨hgrammar.indentation line hmem, hgrammar.headings line hmem, ?_,
      hgrammar.fields line hmem⟩
    intro hline
    obtain ⟨front, key, rest, hsplit, hkey, hrest⟩ :=
      hgrammar.fieldsBelong before line after heq hline
    have hlast := (getLast?_blocks_eq_some_iff before key rest).mpr
      ⟨front, hsplit, hkey.beginsBlock, hrest⟩
    exact ⟨(key, rest), hlast, hkey⟩
  · rintro ⟨hlines, hvalues⟩
    have hmem : ∀ line ∈ lines, ∃ before, LineAllowed before line := by
      intro line hline
      obtain ⟨before, after, heq⟩ := List.append_of_mem hline
      exact ⟨before, hlines before line after heq⟩
    refine ⟨?_, ?_, ?_, ?_, hvalues⟩
    · intro line hline
      obtain ⟨before, hallowed⟩ := hmem line hline
      exact hallowed.indentation
    · intro line hline
      obtain ⟨before, hallowed⟩ := hmem line hline
      exact hallowed.heading
    · intro before line after heq hline
      obtain ⟨⟨key, rest⟩, hlast, hkey⟩ := (hlines before line after heq).belongs hline
      obtain ⟨front, hsplit, -, hrest⟩ :=
        (getLast?_blocks_eq_some_iff before key rest).mp hlast
      exact ⟨front, key, rest, hsplit, hkey, hrest⟩
    · intro line hline
      obtain ⟨before, hallowed⟩ := hmem line hline
      exact hallowed.field

/-- A document is read without a report exactly if it follows the grammar. -/
theorem reports_read_eq_nil_iff (text : Text) :
    (read .standard .identity text).reports = [] ↔
      Grammar (lines (dropByteOrderMark text)) := by
  obtain ⟨hreports, hagrees⟩ := reports_after_eq_nil_iff (lines (dropByteOrderMark text))
  have hend : ReadOptions.standard.requireValuesAtEnd = true := rfl
  rw [reports_read_eq_after, if_pos hend, List.append_eq_nil_iff, hreports, grammar_iff,
    forall_mem_dropLast_and_getLast?, ← and_assoc]
  exact and_congr_right fun hallowed => (hagrees hallowed).closingReports_eq_nil_iff

end Document

end MessageCatalog
