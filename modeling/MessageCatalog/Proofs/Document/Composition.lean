import MessageCatalog.Proofs.Catalog.LanguageSet
import MessageCatalog.Proofs.Document.Line
import MessageCatalog.Proofs.Document.Renumbering
import MessageCatalog.Proofs.List.Blocks

/-!
# Documents one behind the other

A document may be continued by another one that begins with a heading.  The
heading closes the open key as the end of the first document would have closed
it, and from there on nothing of the first document matters for the second:
fields belong to keys below the heading, and sections and entries are only ever
added at the end.

So the reading of the second document behind the first one runs in step with
its reading from the start.  The one state is the other with the first document
in front and all line numbers moved.  This holds as soon as there is a section;
before that, a key row would open one in the second reading only.
-/

namespace MessageCatalog

/-! ## Joined catalogs -/

namespace Catalog

/-- The sections of both catalogs, in this order. -/
def append (left right : Catalog) : Catalog :=
  ⟨left.languages.union right.languages, left.sections ++ right.sections⟩

variable (left : Catalog) {right : Catalog}

theorem append_empty : left.append .empty = left := by
  simp [append, empty]

theorem append_addSection (right : Catalog) (name : Text) :
    left.append (right.addSection name) = (left.append right).addSection name := by
  simp [append, addSection]

theorem append_addEntry (hright : right.sections ≠ []) (entry : Entry) :
    left.append (right.addEntry entry) = (left.append right).addEntry entry := by
  unfold append addEntry
  rw [mapLast_append _ hright]

theorem append_mapLastEntry (hright : right.sections ≠ []) (change : Entry → Entry) :
    left.append (right.mapLastEntry change) = (left.append right).mapLastEntry change := by
  unfold append mapLastEntry
  rw [mapLast_append _ hright]

theorem append_addLanguage (right : Catalog) (code : Text) :
    left.append (right.addLanguage code) = (left.append right).addLanguage code := by
  unfold append addLanguage
  rw [LanguageSet.union_insert]

theorem append_withField (preprocessor : Preprocessor) (hright : right.sections ≠ [])
    (name text : Text) :
    left.append (right.withField preprocessor name text) =
      (left.append right).withField preprocessor name text := by
  unfold withField
  by_cases hkind : FieldKind.ofName name = .value
  · rw [if_pos hkind, if_pos hkind, append_addLanguage, append_mapLastEntry left hright]
  · rw [if_neg hkind, if_neg hkind, append_mapLastEntry left hright]

theorem append_afterRow (preprocessor : Preprocessor) (hright : right.sections ≠ [])
    (inBlock : Bool) (row : Row) :
    left.append (right.afterRow preprocessor inBlock row) =
      (left.append right).afterRow preprocessor inBlock row := by
  cases row with
  | heading name => exact append_addSection left right name
  | key key =>
      have hjoined : (left.append right).sections ≠ [] := by simp [append, hright]
      unfold afterRow
      rw [if_neg (by simpa using hright), if_neg (by simpa using hjoined),
        append_addEntry left hright]
  | field name text =>
      cases inBlock with
      | false => rfl
      | true => exact append_withField left preprocessor hright name text
  | skipped => rfl
  | mixedIndentation => rfl
  | unexpectedIndentation width => rfl
  | unindented => rfl
  | noSeparator => rfl

theorem sections_afterRow_ne_nil (preprocessor : Preprocessor) (hright : right.sections ≠ [])
    (inBlock : Bool) (row : Row) :
    (right.afterRow preprocessor inBlock row).sections ≠ [] := by
  cases row with
  | heading name => simp [afterRow, addSection]
  | key key =>
      unfold afterRow
      rw [if_neg (by simpa using hright)]
      exact mapLast_ne_nil hright
  | field name text =>
      cases inBlock with
      | false => exact hright
      | true =>
          change (right.withField preprocessor name text).sections ≠ []
          unfold withField
          split
          · exact mapLast_ne_nil hright
          · exact mapLast_ne_nil hright
  | skipped => exact hright
  | mixedIndentation => exact hright
  | unexpectedIndentation width => exact hright
  | unindented => exact hright
  | noSeparator => exact hright

end Catalog

/-! ## Moved lines -/

def Report.moved (offset : Nat) (report : Report) : Report :=
  ⟨report.line + offset, report.problem⟩

/-- What is reported on two documents, of which the first one has so many lines. -/
def Outcome.append (first : Outcome) (offset : Nat) (second : Outcome) : Outcome :=
  ⟨first.catalog.append second.catalog, first.reports ++ second.reports.map (.moved offset)⟩

namespace OpenKey

def moved (offset : Nat) (key : OpenKey) : OpenKey :=
  ⟨key.line + offset, key.key, key.hasValues⟩

theorem closingReports_moved (offset : Nat) (openKey : Option OpenKey) :
    closingReports (openKey.map (moved offset)) =
      (closingReports openKey).map (.moved offset) :=
  closingReports_renumbered (· + offset) openKey

theorem afterRow_moved (offset number : Nat) (openKey : Option OpenKey) (row : Row) :
    afterRow (number + offset) (openKey.map (moved offset)) row =
      (afterRow number openKey row).map (moved offset) :=
  afterRow_renumbered (· + offset) number openKey row

end OpenKey

namespace Reading

variable (options : ReadOptions) (preprocessor : Preprocessor)

theorem rowReports_moved (offset number : Nat) (openKey : Option OpenKey) (line : Text)
    (row : Row) :
    rowReports options preprocessor (openKey.map (.moved offset)) (number + offset) line row =
      (rowReports options preprocessor openKey number line row).map (.moved offset) :=
  rowReports_renumbered options preprocessor (· + offset) number openKey line row

/-- The reading with another document in front of it. -/
def behind (first : Outcome) (offset : Nat) (reading : Reading) : Reading :=
  ⟨first.catalog.append reading.catalog, first.reports ++ reading.reports.map (.moved offset),
    reading.openKey.map (.moved offset)⟩

theorem step_behind (first : Outcome) (offset : Nat) {reading : Reading}
    (hreading : reading.catalog.sections ≠ []) (number : Nat) (line : Text) :
    (reading.behind first offset).step options preprocessor (number + offset) line =
      (reading.step options preprocessor number line).behind first offset := by
  rw [step_eq, step_eq]
  unfold behind
  rw [Option.isSome_map, Catalog.append_afterRow first.catalog preprocessor hreading,
    rowReports_moved, OpenKey.afterRow_moved, List.map_append, List.append_assoc]

theorem steps_behind (first : Outcome) (offset : Nat) {reading : Reading}
    (hreading : reading.catalog.sections ≠ []) (number : Nat) (lines : List Text) :
    (reading.behind first offset).steps options preprocessor (number + offset) lines =
      (reading.steps options preprocessor number lines).behind first offset := by
  induction lines generalizing reading number with
  | nil => rfl
  | cons line lines ih =>
      -- Without this a key row would open a section here, but not behind the first document.
      have hnext : (reading.step options preprocessor number line).catalog.sections ≠ [] := by
        rw [step_eq]
        exact Catalog.sections_afterRow_ne_nil preprocessor hreading _ _
      rw [steps, steps, step_behind options preprocessor first offset hreading,
        Nat.add_right_comm, ih hnext]

theorem finish_behind (first : Outcome) (offset : Nat) (reading : Reading) :
    (reading.behind first offset).finish options =
      (reading.finish options).behind first offset := by
  unfold finish
  split
  · rw [closeKey_eq, closeKey_eq]
    unfold behind
    rw [OpenKey.closingReports_moved, List.map_append, List.append_assoc]
    rfl
  · rfl

theorem steps_of_not_significant {lines : List Text}
    (hlines : ∀ line ∈ lines, ¬ Document.Significant line) (reading : Reading) (number : Nat) :
    reading.steps options preprocessor number lines = reading := by
  induction lines generalizing reading number with
  | nil => rfl
  | cons line lines ih =>
      have hrow : Row.ofLine line = .skipped := by
        unfold Row.ofLine
        rw [if_pos ((Document.isSkipped_eq_true_iff line).mpr (hlines line (by simp)))]
      have hstep : reading.step options preprocessor number line = reading := by
        unfold step
        rw [hrow]
      rw [steps, hstep]
      apply ih
      intro other hother
      exact hlines other (List.mem_cons_of_mem line hother)

/-- A heading closes the key that the end of the document would have closed. -/
theorem step_heading {line : Text} (hline : Document.IsHeading line) (reading : Reading)
    (number other offset : Nat) :
    reading.step options preprocessor number line =
      (start.step options preprocessor other line).behind
        ⟨reading.closeKey.catalog, reading.closeKey.reports⟩ offset := by
  rw [step_eq, step_eq, closeKey_eq, Document.ofLine_of_isHeading hline]
  unfold behind start
  simp [Catalog.afterRow, rowReports, OpenKey.afterRow, OpenKey.closingReports,
    Catalog.append_addSection, Catalog.append_empty]

/-- From the first heading on it does not matter what has been read before. -/
theorem steps_heading {front rest : List Text} {line : Text}
    (hfront : ∀ other ∈ front, ¬ Document.Significant other) (hline : Document.IsHeading line)
    (reading : Reading) (offset : Nat) :
    reading.steps options preprocessor (1 + offset) (front ++ line :: rest) =
      (start.steps options preprocessor 1 (front ++ line :: rest)).behind
        ⟨reading.closeKey.catalog, reading.closeKey.reports⟩ offset := by
  have hsections : (start.step options preprocessor (1 + front.length) line).catalog.sections ≠
      [] := by
    rw [step_eq, Document.ofLine_of_isHeading hline]
    simp [Catalog.afterRow, Catalog.addSection]
  have hnumber : 1 + offset + front.length + 1 = 1 + front.length + 1 + offset := by omega
  rw [steps_append, steps_append, steps_of_not_significant options preprocessor hfront,
    steps_of_not_significant options preprocessor hfront, steps, steps,
    step_heading options preprocessor hline reading _ (1 + front.length) offset, hnumber,
    steps_behind options preprocessor _ _ hsections]

end Reading

namespace Document

/-! ## Lines of a joined text -/

def EndsLine (text : Text) : Prop := text = [] ∨ text.getLast? = some '\n'

theorem linesOfPieces_append (pieces : List Text) {rest : List Text} (hrest : rest ≠ []) :
    linesOfPieces (pieces ++ rest) = pieces.map dropReturn ++ linesOfPieces rest := by
  induction pieces with
  | nil => rfl
  | cons piece pieces ih =>
      cases hmore : pieces ++ rest with
      | nil => exact absurd (List.append_eq_nil_iff.mp hmore).2 hrest
      | cons next more =>
          rw [List.cons_append, hmore, linesOfPieces, ← hmore, ih]
          rfl

theorem linesOfPieces_cons {piece : Text} (hpiece : piece ≠ [])
    (hreturn : piece.getLast? ≠ some '\r') (pieces : List Text) :
    linesOfPieces (piece :: pieces) = piece :: linesOfPieces pieces := by
  cases pieces with
  | nil =>
      have hkept : linesOfPieces [piece] = [piece] := by
        rw [linesOfPieces, if_neg (by simpa using hpiece)]
      exact hkept
  | cons next more => rw [linesOfPieces, dropReturn, if_neg hreturn]

theorem lines_append_cons (left right : Text) :
    lines (left ++ '\n' :: right) =
      (Text.splitOn '\n' left).map dropReturn ++ lines right := by
  unfold lines
  rw [Text.splitOn_append_cons]
  exact linesOfPieces_append _ (Text.splitOn_ne_nil '\n' right)

theorem lines_append {first : Text} (hfirst : EndsLine first) (second : Text) :
    lines (first ++ second) = lines first ++ lines second := by
  rcases hfirst with rfl | hlast
  · rfl
  · obtain ⟨left, rfl⟩ := List.getLast?_eq_some_iff.mp hlast
    have hleft : lines (left ++ ['\n']) = (Text.splitOn '\n' left).map dropReturn := by
      rw [lines_append_cons left []]
      exact List.append_nil _
    rw [List.append_assoc, hleft]
    exact lines_append_cons left second

theorem dropByteOrderMark_eq_or (text : Text) :
    dropByteOrderMark text = text ∨ text = '\uFEFF' :: dropByteOrderMark text := by
  cases text with
  | nil => exact Or.inl rfl
  | cons c rest =>
      rw [dropByteOrderMark]
      by_cases hc : c = '\uFEFF'
      · rw [if_pos hc, hc]
        exact Or.inr rfl
      · rw [if_neg hc]
        exact Or.inl rfl

theorem exists_of_endsLine_mark {rest : Text} (htext : EndsLine ('\uFEFF' :: rest)) :
    ∃ left, rest = left ++ ['\n'] := by
  rcases htext with hnil | hlast
  · cases hnil
  · rcases List.eq_nil_or_concat' rest with rfl | ⟨left, last, rfl⟩
    · exact absurd hlast (by decide)
    · rw [← List.cons_append, List.getLast?_concat] at hlast
      rw [Option.some.inj hlast]
      exact ⟨left, rfl⟩

theorem endsLine_dropByteOrderMark {text : Text} (htext : EndsLine text) :
    EndsLine (dropByteOrderMark text) := by
  rcases dropByteOrderMark_eq_or text with hsame | hmark
  · rwa [hsame]
  · rw [hmark] at htext
    obtain ⟨left, hrest⟩ := exists_of_endsLine_mark htext
    rw [hrest]
    exact Or.inr List.getLast?_concat

/-- The byte order mark is a character of the first line. -/
theorem length_lines_dropByteOrderMark {text : Text} (htext : EndsLine text) :
    (lines (dropByteOrderMark text)).length = (lines text).length := by
  rcases dropByteOrderMark_eq_or text with hsame | hmark
  · rw [hsame]
  · have hends : EndsLine ('\uFEFF' :: dropByteOrderMark text) := hmark ▸ htext
    obtain ⟨left, hrest⟩ := exists_of_endsLine_mark hends
    have hpieces : (Text.splitOn '\n' ('\uFEFF' :: left)).length =
        (Text.splitOn '\n' left).length := by
      rw [Text.splitOn, if_neg (by decide)]
      cases hsplit : Text.splitOn '\n' left with
      | nil => exact absurd hsplit (Text.splitOn_ne_nil '\n' left)
      | cons piece pieces => rfl
    rw [hrest] at hmark
    rw [hrest, hmark, ← List.cons_append, lines_append_cons, lines_append_cons,
      List.length_append, List.length_append, List.length_map, List.length_map, hpieces]

theorem dropByteOrderMark_eq_self {text : Text} (htext : text.head? ≠ some '\uFEFF') :
    dropByteOrderMark text = text := by
  rcases dropByteOrderMark_eq_or text with hsame | hmark
  · exact hsame
  · rw [hmark] at htext
    exact absurd rfl htext

theorem dropByteOrderMark_append (first : Text) {second : Text}
    (hsecond : second.head? ≠ some '\uFEFF') :
    dropByteOrderMark (first ++ second) =
      dropByteOrderMark first ++ dropByteOrderMark second := by
  have hkept := dropByteOrderMark_eq_self hsecond
  rw [hkept]
  cases first with
  | nil => exact hkept
  | cons c rest =>
      rw [List.cons_append, dropByteOrderMark, dropByteOrderMark]
      split <;> rfl

/-! ## Whole documents -/

/-- A document that ends its last line, continued by one that begins with a heading,
is read as the two of them. -/
theorem read_append (lenient : Bool) (preprocessor : Preprocessor) {first second : Text}
    (hfirst : EndsLine first) (hmark : second.head? ≠ some '\uFEFF')
    (hheading : ∃ line, (lines second).find? (fun line => Significant line) = some line ∧
      "===".toList <+: line) :
    read ⟨lenient, true⟩ preprocessor (first ++ second) =
      (read ⟨lenient, true⟩ preprocessor first).append (lines first).length
        (read ⟨lenient, true⟩ preprocessor second) := by
  obtain ⟨line, hfind, hprefix⟩ := hheading
  obtain ⟨hline, front, rest, hlines, hfront⟩ := List.find?_eq_some_iff_append.mp hfind
  have hheads : IsHeading line := ⟨of_decide_eq_true hline, hprefix⟩
  have hskipped : ∀ other ∈ front, ¬ Significant other := by simpa using hfront
  have hjoined : lines (dropByteOrderMark (first ++ second)) =
      lines (dropByteOrderMark first) ++ (front ++ line :: rest) := by
    rw [dropByteOrderMark_append first hmark, dropByteOrderMark_eq_self hmark,
      lines_append (endsLine_dropByteOrderMark hfirst), hlines]
  unfold read Outcome.append
  rw [hjoined, dropByteOrderMark_eq_self hmark, hlines, ← length_lines_dropByteOrderMark hfirst,
    Reading.steps_append, Reading.steps_heading _ preprocessor hskipped hheads,
    Reading.finish_behind]
  rfl

/-- Its last key has no values. -/
def unfinishedText : Text := "  A\n    en = x\n  B\n".toList

def continuingText : Text := "# note\n\n=== S ===\n    fi = y\n  K\n    fi = z".toList

theorem read_append_unfinishedText :
    (EndsLine unfinishedText ∧ continuingText.head? ≠ some '\uFEFF' ∧
      ∃ line, (lines continuingText).find? (fun line => Significant line) = some line ∧
        "===".toList <+: line) ∧
      read ⟨false, true⟩ .identity (unfinishedText ++ continuingText) =
        (read ⟨false, true⟩ .identity unfinishedText).append (lines unfinishedText).length
          (read ⟨false, true⟩ .identity continuingText) := by
  have hends : EndsLine unfinishedText := Or.inr (by decide)
  have hmark : continuingText.head? ≠ some '\uFEFF' := by decide
  have hheading : ∃ line,
      (lines continuingText).find? (fun line => Significant line) = some line ∧
        "===".toList <+: line :=
    ⟨"=== S ===".toList, by decide, by decide⟩
  exact ⟨⟨hends, hmark, hheading⟩, read_append false .identity hends hmark hheading⟩

end Document

end MessageCatalog
