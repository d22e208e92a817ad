import MessageCatalog.Proofs.Catalog.Agreement
import MessageCatalog.Proofs.Document.Composition
import MessageCatalog.Proofs.Document.Reports
import MessageCatalog.Proofs.Text.Joining

/-!
# Rows in another order

Two neighbouring field rows may change places, unless they give the same part of an
entry.  Neither row ends the entry, so both find the same key open in either order, and
what is reported on one of them does not depend on the other.  The catalogs behind the
two rows agree, and they still do at the end of the document, since whatever is read
next respects agreement.
-/

namespace MessageCatalog

/-- Two lines that may change places: neither closes the key, and their fields, if they
have any, are not about the same part of an entry. -/
structure Document.Exchangeable (first second : Text) : Prop where
  firstKeeps : ¬ ClosesKey first
  secondKeeps : ¬ ClosesKey second
  fields : ∀ field ∈ field? first, ∀ other ∈ field? second,
    FieldKind.Independent field.1 other.1

open Document (ClosesKey IsValueRow Exchangeable field? lineReports lineProblems)

/-! ## Lines that close no key -/

theorem OpenKey.isSome_afterRow {line : Text} (hline : ¬ ClosesKey line) (number : Nat)
    (openKey : Option OpenKey) :
    (afterRow number openKey (Row.ofLine line)).isSome = openKey.isSome := by
  rw [Document.afterRow_eq_map hline, Option.isSome_map]

/-- Neither row changes the line of the key or looks at the number of its own. -/
theorem OpenKey.afterRow_exchange {first second : Text} (hfirst : ¬ ClosesKey first)
    (hsecond : ¬ ClosesKey second) (number : Nat) (openKey : Option OpenKey) :
    afterRow (number + 1) (afterRow number openKey (Row.ofLine first)) (Row.ofLine second) =
      afterRow (number + 1) (afterRow number openKey (Row.ofLine second))
        (Row.ofLine first) := by
  simp only [Document.afterRow_eq_map hfirst, Document.afterRow_eq_map hsecond, Option.map_map]
  congr 1
  funext key
  simp only [Function.comp_apply, Bool.or_assoc]
  rw [Bool.or_comm (decide (IsValueRow first))]

namespace Catalog

variable (preprocessor : Preprocessor)

theorem afterRow_of_not_closesKey {line : Text} (hline : ¬ ClosesKey line) (catalog : Catalog)
    (inBlock : Bool) :
    catalog.afterRow preprocessor inBlock (Row.ofLine line) =
      if inBlock then
        (field? line).elim catalog fun field => catalog.withField preprocessor field.1 field.2
      else catalog := by
  cases hfield : field? line with
  | none =>
      rw [(Document.afterRow_of_field?_eq_none hline hfield).2, Option.elim_none, ite_self]
  | some field =>
      rw [Document.ofLine_of_field? hfield]
      rfl

theorem afterRow_exchange {first second : Text} (hrows : Exchangeable first second)
    (catalog : Catalog) (inBlock : Bool) :
    ((catalog.afterRow preprocessor inBlock (Row.ofLine first)).afterRow preprocessor inBlock
        (Row.ofLine second)).Agrees
      ((catalog.afterRow preprocessor inBlock (Row.ofLine second)).afterRow preprocessor inBlock
        (Row.ofLine first)) := by
  simp only [afterRow_of_not_closesKey preprocessor hrows.firstKeeps,
    afterRow_of_not_closesKey preprocessor hrows.secondKeeps]
  cases inBlock with
  | false => exact agrees_refl catalog
  | true =>
      cases hone : field? first with
      | none => exact agrees_refl _
      | some field =>
          cases htwo : field? second with
          | none => exact agrees_refl _
          | some other =>
              exact withField_exchange catalog preprocessor (hrows.fields field hone other htwo) _ _

end Catalog

/-! ## Readings with agreeing catalogs -/

/-- The same has been reported, the same key is open, and the catalogs agree. -/
structure Reading.Agrees (left right : Reading) : Prop where
  catalog : left.catalog.Agrees right.catalog
  reports : left.reports = right.reports
  openKey : left.openKey = right.openKey

namespace Reading

variable {options : ReadOptions} {preprocessor : Preprocessor}

theorem Agrees.step {left right : Reading} (hagrees : left.Agrees right) (number : Nat)
    (line : Text) :
    (left.step options preprocessor number line).Agrees
      (right.step options preprocessor number line) := by
  rw [step_eq, step_eq, hagrees.reports, hagrees.openKey]
  exact ⟨hagrees.catalog.afterRow preprocessor _ _, rfl, rfl⟩

theorem Agrees.steps {left right : Reading} (hagrees : left.Agrees right) (number : Nat)
    (lines : List Text) :
    (left.steps options preprocessor number lines).Agrees
      (right.steps options preprocessor number lines) := by
  induction lines generalizing left right number with
  | nil => exact hagrees
  | cons line lines ih => exact ih (hagrees.step number line) (number + 1)

theorem Agrees.finish {left right : Reading} (hagrees : left.Agrees right) :
    (left.finish options).Agrees (right.finish options) := by
  unfold Reading.finish
  split
  · rw [closeKey_eq, closeKey_eq, hagrees.reports, hagrees.openKey]
    exact ⟨hagrees.catalog, rfl, rfl⟩
  · exact hagrees

/-! ## Exchanged rows -/

/-- What has been read of two rows, apart from their reports and the earlier ones. -/
def afterPair (preprocessor : Preprocessor) (reading : Reading) (number : Nat)
    (first second : Text) : Reading :=
  ⟨(reading.catalog.afterRow preprocessor reading.openKey.isSome (Row.ofLine first)).afterRow
      preprocessor reading.openKey.isSome (Row.ofLine second), [],
    OpenKey.afterRow (number + 1) (OpenKey.afterRow number reading.openKey (Row.ofLine first))
      (Row.ofLine second)⟩

/-- What is reported on two rows while the same key is open. -/
def pairReports (options : ReadOptions) (preprocessor : Preprocessor) (reading : Reading)
    (number : Nat) (first second : Text) : List Report :=
  lineReports options preprocessor reading.openKey.isSome (first, number) ++
    lineReports options preprocessor reading.openKey.isSome (second, number + 1)

theorem steps_pair {first second : Text} (hfirst : ¬ ClosesKey first)
    (hsecond : ¬ ClosesKey second) (reading : Reading) (number : Nat) :
    reading.steps options preprocessor number [first, second] =
      (reading.afterPair preprocessor number first second).reportedAfter
        (reading.reports ++ reading.pairReports options preprocessor number first second) := by
  rw [Reading.steps, Reading.steps, Reading.steps, step_eq, step_eq]
  dsimp only
  rw [Document.rowReports_of_not_closesKey options preprocessor hfirst,
    Document.rowReports_of_not_closesKey options preprocessor hsecond,
    OpenKey.isSome_afterRow hfirst, List.append_assoc]
  unfold afterPair reportedAfter pairReports
  rw [List.append_nil]

theorem afterPair_exchange {first second : Text} (hrows : Exchangeable first second)
    (reading : Reading) (number : Nat) :
    (reading.afterPair preprocessor number first second).Agrees
      (reading.afterPair preprocessor number second first) :=
  ⟨Catalog.afterRow_exchange preprocessor hrows _ _, rfl,
    OpenKey.afterRow_exchange hrows.firstKeeps hrows.secondKeeps number reading.openKey⟩

end Reading

/-! ## Exchanged rows in a document -/

/-- The same reports, except that those on two neighbouring lines change places and line
numbers.  The first of the two lines has the given number. -/
def Report.Exchanged (number : Nat) (left right : List Report) : Prop :=
  ∃ (earlier later : List Report) (first second : List Problem),
    left = earlier ++ (first.map (Report.mk number) ++ second.map (Report.mk (number + 1))) ++
      later ∧
    right = earlier ++ (second.map (Report.mk number) ++ first.map (Report.mk (number + 1))) ++
      later ∧
    ∀ report ∈ earlier ++ later, report.line ≠ number ∧ report.line ≠ number + 1

namespace Reading

variable {options : ReadOptions} {preprocessor : Preprocessor}

/-- What is read behind two rows of a document, apart from the reports up to there. -/
def behindPair (options : ReadOptions) (preprocessor : Preprocessor) (before : List Text)
    (first second : Text) (rest : List Text) : Reading :=
  (((after options preprocessor before).afterPair preprocessor (before.length + 1) first
    second).steps options preprocessor (before.length + 3) rest).finish options

theorem finish_after_pair {first second : Text} (hfirst : ¬ ClosesKey first)
    (hsecond : ¬ ClosesKey second) (before rest : List Text) :
    (after options preprocessor (before ++ first :: second :: rest)).finish options =
      (behindPair options preprocessor before first second rest).reportedAfter
        ((after options preprocessor before).reports ++
          (after options preprocessor before).pairReports options preprocessor
            (before.length + 1) first second) := by
  have hrun : after options preprocessor (before ++ ([first, second] ++ rest)) =
      ((after options preprocessor before).steps options preprocessor (1 + before.length)
        [first, second]).steps options preprocessor (1 + before.length + 2) rest := by
    unfold after
    rw [steps_append, steps_append]
    rfl
  have hnumber : 1 + before.length = before.length + 1 := Nat.add_comm 1 before.length
  have hlines : before ++ first :: second :: rest = before ++ ([first, second] ++ rest) := rfl
  rw [hlines, hrun, hnumber, steps_pair hfirst hsecond, steps_reportedAfter,
    finish_reportedAfter]
  rfl

theorem behindPair_exchange {first second : Text} (hrows : Exchangeable first second)
    (before rest : List Text) :
    (behindPair options preprocessor before first second rest).Agrees
      (behindPair options preprocessor before second first rest) :=
  ((afterPair_exchange hrows _ _).steps _ rest).finish

/-- A key that is open behind the rows has been open before. -/
theorem NumbersSatisfy.afterPair {condition : Nat → Prop} {reading : Reading}
    (hreading : reading.NumbersSatisfy condition) {first second : Text}
    (hfirst : ¬ ClosesKey first) (hsecond : ¬ ClosesKey second) (number : Nat) :
    (reading.afterPair preprocessor number first second).NumbersSatisfy condition := by
  refine ⟨List.forall_mem_nil _, ?_⟩
  intro key hkey
  unfold Reading.afterPair at hkey
  rw [Document.afterRow_eq_map hsecond, Document.afterRow_eq_map hfirst, Option.map_map] at hkey
  obtain ⟨before, hbefore, rfl⟩ := Option.map_eq_some_iff.mp hkey
  exact hreading.openKey before hbefore

/-- Behind the rows nothing is reported on them.  The key above them may be, and it
stands further up. -/
theorem numbersSatisfy_behindPair {first second : Text} (hfirst : ¬ ClosesKey first)
    (hsecond : ¬ ClosesKey second) (before rest : List Text) :
    (behindPair options preprocessor before first second rest).NumbersSatisfy fun number =>
      number ≠ before.length + 1 ∧ number ≠ before.length + 2 := by
  apply NumbersSatisfy.finish
  apply NumbersSatisfy.steps
  · apply NumbersSatisfy.afterPair _ hfirst hsecond
    apply (numbersSatisfy_after options preprocessor before).imp
    intro number hbounds
    omega
  · intro number hle hlt
    omega

theorem catalog_exchange {first second : Text} (hrows : Exchangeable first second)
    (before rest : List Text) :
    ((after options preprocessor (before ++ first :: second :: rest)).finish
      options).catalog.Agrees
      ((after options preprocessor (before ++ second :: first :: rest)).finish
        options).catalog := by
  rw [finish_after_pair hrows.firstKeeps hrows.secondKeeps,
    finish_after_pair hrows.secondKeeps hrows.firstKeeps]
  exact (behindPair_exchange hrows before rest).catalog

theorem reports_exchange {first second : Text} (hrows : Exchangeable first second)
    (before rest : List Text) :
    Report.Exchanged (before.length + 1)
      ((after options preprocessor (before ++ first :: second :: rest)).finish options).reports
      ((after options preprocessor (before ++ second :: first :: rest)).finish
        options).reports := by
  have hagrees : (behindPair options preprocessor before first second rest).Agrees
      (behindPair options preprocessor before second first rest) :=
    behindPair_exchange hrows before rest
  refine ⟨(after options preprocessor before).reports,
    (behindPair options preprocessor before first second rest).reports,
    lineProblems options preprocessor (after options preprocessor before).openKey.isSome first,
    lineProblems options preprocessor (after options preprocessor before).openKey.isSome second,
    ?_, ?_, ?_⟩
  · rw [finish_after_pair hrows.firstKeeps hrows.secondKeeps]
    rfl
  · rw [finish_after_pair hrows.secondKeeps hrows.firstKeeps, hagrees.reports]
    rfl
  · intro report hreport
    rcases List.mem_append.mp hreport with hearlier | hbehind
    · have hbounds := (numbersSatisfy_after options preprocessor before).reports report hearlier
      omega
    · apply (numbersSatisfy_behindPair hrows.firstKeeps hrows.secondKeeps before rest).reports
      exact hbehind

end Reading

namespace Document

/-! ## Rows as they are written -/

/-- A line behind exactly four spaces that is no comment and contains an equals sign. -/
structure IsAssignment (line : Text) : Prop where
  spaces : (line.takeWhile (· = ' ')).length = 4
  comment : (Text.trim line).head? ≠ some '#'
  separator : '=' ∈ line

/-- What stands in front of the first equals sign, trimmed. -/
def assignedName (line : Text) : Text := Text.trim (line.takeWhile (· ≠ '='))

theorem Indented.length_takeWhile {width : Nat} {line : Text} (hline : Indented width line) :
    (line.takeWhile (· = ' ')).length = width := by
  have hsplit : line = List.replicate width ' ' ++ line.dropWhile isBlank := by
    rw [← hline]
    exact List.takeWhile_append_dropWhile.symm
  have hspaces : ∀ c ∈ List.replicate width ' ', decide (c = ' ') = true := by simp
  have hrest : (line.dropWhile isBlank).takeWhile (· = ' ') = [] := by
    cases hdrop : line.dropWhile isBlank with
    | nil => rfl
    | cons c rest =>
        have hc : isBlank c = false :=
          Text.head?_dropWhile_eq_false line c (by rw [hdrop]; rfl)
        apply List.takeWhile_cons_of_neg
        simp only [decide_eq_true_eq]
        rintro rfl
        exact absurd hc (by decide)
  rw [hsplit, List.takeWhile_append_of_pos hspaces, hrest, List.append_nil,
    List.length_replicate]

/-- What follows the four spaces may be white space of another kind.  Then the line is
no field row, but it closes no key either. -/
theorem IsAssignment.not_closesKey {line : Text} (hline : IsAssignment line) :
    ¬ ClosesKey line := by
  have hspaces := hline.spaces
  rintro (hheading | hkey)
  · rw [hheading.indented.length_takeWhile] at hspaces
    cases hspaces
  · rw [hkey.2.length_takeWhile] at hspaces
    cases hspaces

theorem name_of_field? {line name text : Text} (hfield : field? line = some (name, text)) :
    name = assignedName line := by
  have hline : IsFieldRow line := ((field?_isSome_iff line).mp (by rw [hfield]; rfl)).1
  unfold field? at hfield
  rw [if_pos hline] at hfield
  obtain ⟨⟨before, value⟩, hparts, heq⟩ := Option.map_eq_some_iff.mp hfield
  obtain ⟨rfl, -⟩ := Prod.mk.inj heq
  have hblanks : ∀ c ∈ Text.leadingBlanks line, isBlank c = true :=
    fun c hc => List.mem_takeWhile_imp hc
  have hsplit : line =
      (Text.leadingBlanks line ++ before) ++ '=' :: (value ++ Text.trailingBlanks line) := by
    conv_lhs => rw [← Text.leadingBlanks_append_trim_append_trailingBlanks line,
      ← Text.append_eq_of_splitFirst?_eq_some hparts]
    simp
  have hfront : ∀ c ∈ Text.leadingBlanks line ++ before, decide (c ≠ '=') = true := by
    intro c hc
    rw [decide_eq_true_eq]
    rintro rfl
    rcases List.mem_append.mp hc with hblank | hbefore
    · exact absurd (hblanks '=' hblank) (by decide)
    · exact Text.not_mem_of_splitFirst?_eq_some hparts hbefore
  have htake : line.takeWhile (· ≠ '=') = Text.leadingBlanks line ++ before := by
    conv_lhs => rw [hsplit]
    rw [List.takeWhile_append_of_pos hfront, List.takeWhile_cons_of_neg (by simp),
      List.append_nil]
  unfold assignedName
  rw [htake, Text.trim_append_left hblanks]

theorem IsAssignment.exchangeable {first second : Text} (hfirst : IsAssignment first)
    (hsecond : IsAssignment second)
    (hnames : FieldKind.Independent (assignedName first) (assignedName second)) :
    Exchangeable first second := by
  refine ⟨hfirst.not_closesKey, hsecond.not_closesKey, ?_⟩
  rintro ⟨name, text⟩ hfield ⟨name', text'⟩ hother
  rw [name_of_field? hfield, name_of_field? hother]
  exact hnames

theorem IsAssignment.head? {line : Text} (hline : IsAssignment line) :
    line.head? = some ' ' := by
  have hspaces := hline.spaces
  cases line with
  | nil => cases hspaces
  | cons c rest =>
      by_cases hc : c = ' '
      · rw [hc]
        rfl
      · rw [List.takeWhile_cons_of_neg (by simpa using hc)] at hspaces
        cases hspaces

theorem lines_of_splitOn {text first second : Text} {before after : List Text}
    (hsplit : Text.splitOn '\n' text = before ++ first :: second :: after)
    (hfirst : IsAssignment first) (hsecond : IsAssignment second)
    (hreturns : ∀ piece ∈ [first, second], '\r' ∉ piece) :
    lines text = before.map dropReturn ++ first :: second :: linesOfPieces after := by
  have hlast : ∀ piece ∈ [first, second], piece.getLast? ≠ some '\r' := by
    intro piece hpiece hend
    exact hreturns piece hpiece (List.mem_of_getLast? hend)
  rw [lines, hsplit, linesOfPieces_append before (List.cons_ne_nil first _),
    linesOfPieces_cons (List.ne_nil_of_mem hfirst.separator) (hlast first (by simp)),
    linesOfPieces_cons (List.ne_nil_of_mem hsecond.separator) (hlast second (by simp))]

theorem splitOn_exchange {text first second : Text} {before after : List Text}
    (hsplit : Text.splitOn '\n' text = before ++ first :: second :: after) :
    Text.splitOn '\n' (Text.join ['\n'] (before ++ second :: first :: after)) =
      before ++ second :: first :: after := by
  apply Text.splitOn_join (by simp)
  intro piece hpiece
  have hmem : piece ∈ Text.splitOn '\n' text := by
    rw [hsplit]
    simpa [or_left_comm] using hpiece
  exact Text.not_mem_of_mem_splitOn hmem

theorem head?_join_ne_mark {text piece : Text} {before after rest : List Text}
    (hmark : text.head? ≠ some '\uFEFF')
    (hsplit : Text.splitOn '\n' text = before ++ after)
    (hpiece : piece.head? ≠ some '\uFEFF') :
    (Text.join ['\n'] (before ++ piece :: rest)).head? ≠ some '\uFEFF' := by
  intro hhead
  cases before with
  | nil => exact hpiece (Text.head?_of_head?_join (by decide) hhead)
  | cons line before =>
      exact hmark (Text.head?_of_splitOn hsplit (Text.head?_of_head?_join (by decide) hhead))

/-! ## Whole documents -/

variable {options : ReadOptions} {preprocessor : Preprocessor}

theorem read_eq_finish_after {text : Text} (hmark : text.head? ≠ some '\uFEFF') :
    read options preprocessor text =
      ⟨((Reading.after options preprocessor (lines text)).finish options).catalog,
        ((Reading.after options preprocessor (lines text)).finish options).reports⟩ := by
  unfold read
  rw [dropByteOrderMark_eq_self hmark]
  rfl

/-- If two neighbouring lines that give different parts of an entry change places, the
same catalog is read up to the order of values, the same files are written for every
platform, and the same is reported up to the place of the two lines. -/
theorem read_exchange {text first second : Text} {before after : List Text}
    (hreturn : '\r' ∉ text) (hmark : text.head? ≠ some '\uFEFF')
    (hsplit : Text.splitOn '\n' text = before ++ first :: second :: after)
    (hfirst : IsAssignment first) (hsecond : IsAssignment second)
    (hnames : FieldKind.Independent (assignedName first) (assignedName second)) :
    let exchanged := Text.join ['\n'] (before ++ second :: first :: after)
    (read options preprocessor text).catalog.Agrees
        (read options preprocessor exchanged).catalog ∧
      (∀ format ∈ [Format.apple, .android, .java, .windowsResx, .windowsResw],
        ∀ language, format.render? (read options preprocessor text).catalog language =
          format.render? (read options preprocessor exchanged).catalog language) ∧
      Report.Exchanged (before.length + 1) (read options preprocessor text).reports
        (read options preprocessor exchanged).reports := by
  intro exchanged
  have hexchanged : Text.splitOn '\n' exchanged = before ++ second :: first :: after :=
    splitOn_exchange hsplit
  have hreturns : ∀ piece ∈ [first, second], '\r' ∉ piece := by
    intro piece hpiece hin
    have hmem : piece ∈ Text.splitOn '\n' text := by
      rw [hsplit]
      rcases List.mem_pair.mp hpiece with rfl | rfl <;> simp
    exact hreturn (Text.mem_of_mem_splitOn hmem hin)
  have hspace : second.head? ≠ some '\uFEFF' := by
    rw [hsecond.head?]
    decide
  have hother : exchanged.head? ≠ some '\uFEFF' := head?_join_ne_mark hmark hsplit hspace
  have hlines : lines text =
      before.map dropReturn ++ first :: second :: linesOfPieces after :=
    lines_of_splitOn hsplit hfirst hsecond hreturns
  have hothers : lines exchanged =
      before.map dropReturn ++ second :: first :: linesOfPieces after := by
    apply lines_of_splitOn hexchanged hsecond hfirst
    intro piece hpiece
    exact hreturns piece (by simpa [or_comm] using hpiece)
  have hnumber : before.length = (before.map dropReturn).length :=
    (List.length_map dropReturn).symm
  have hrows : Exchangeable first second := hfirst.exchangeable hsecond hnames
  have hagrees : (read options preprocessor text).catalog.Agrees
      (read options preprocessor exchanged).catalog := by
    rw [read_eq_finish_after hmark, read_eq_finish_after hother, hlines, hothers]
    exact Reading.catalog_exchange hrows _ _
  refine ⟨hagrees, ?_, ?_⟩
  · intro format hformat language
    have hplatform : format.platform?.isSome = true := by
      revert format
      decide
    obtain ⟨platform, hplatform⟩ := Option.isSome_iff_exists.mp hplatform
    exact hagrees.render? hplatform language
  · rw [read_eq_finish_after hmark, read_eq_finish_after hother, hlines, hothers, hnumber]
    exact Reading.reports_exchange hrows _ _

/-- Two values of one key, with problems in both of them and around them. -/
def valuesFront : List Text := ["  A".toList, "    platforms = mac".toList]

def finnishRow : Text := "    fi = {y:@}".toList

def englishRow : Text := "    en = {x:@} {z:@}".toList

def valuesRest : List Text := ["    x".toList, "  B".toList]

def valuesText : Text := Text.join ['\n'] (valuesFront ++ finnishRow :: englishRow :: valuesRest)

theorem read_exchange_valuesText :
    let exchanged := Text.join ['\n'] (valuesFront ++ englishRow :: finnishRow :: valuesRest)
    ('\r' ∉ valuesText ∧ valuesText.head? ≠ some '\uFEFF' ∧
      Text.splitOn '\n' valuesText = valuesFront ++ finnishRow :: englishRow :: valuesRest ∧
      IsAssignment finnishRow ∧ IsAssignment englishRow ∧
      FieldKind.Independent (assignedName finnishRow) (assignedName englishRow)) ∧
    ((read .standard .identity valuesText).reports.map Report.line = [2, 3, 4, 4, 5, 6] ∧
      (read .standard .identity exchanged).reports.map Report.line = [2, 3, 3, 4, 5, 6] ∧
      (read .standard .identity valuesText).catalog ≠
        (read .standard .identity exchanged).catalog) ∧
    (read .standard .identity valuesText).catalog.Agrees
        (read .standard .identity exchanged).catalog ∧
      (∀ format ∈ [Format.apple, .android, .java, .windowsResx, .windowsResw],
        ∀ language, format.render? (read .standard .identity valuesText).catalog language =
          format.render? (read .standard .identity exchanged).catalog language) ∧
      Report.Exchanged (valuesFront.length + 1) (read .standard .identity valuesText).reports
        (read .standard .identity exchanged).reports := by
  intro exchanged
  have hreturn : '\r' ∉ valuesText := by decide
  have hmark : valuesText.head? ≠ some '\uFEFF' := by decide
  have hsplit : Text.splitOn '\n' valuesText =
      valuesFront ++ finnishRow :: englishRow :: valuesRest := by
    decide
  have hfinnish : IsAssignment finnishRow := ⟨by decide, by decide, by decide⟩
  have henglish : IsAssignment englishRow := ⟨by decide, by decide, by decide⟩
  have hnames : FieldKind.Independent (assignedName finnishRow) (assignedName englishRow) :=
    ⟨by decide, by decide⟩
  have hlines : (read .standard .identity valuesText).reports.map Report.line =
      [2, 3, 4, 4, 5, 6] := by
    decide +kernel
  have hothers : (read .standard .identity exchanged).reports.map Report.line =
      [2, 3, 3, 4, 5, 6] := by
    decide +kernel
  have hdiffer : (read .standard .identity valuesText).catalog ≠
      (read .standard .identity exchanged).catalog := by
    decide +kernel
  exact ⟨⟨hreturn, hmark, hsplit, hfinnish, henglish, hnames⟩, ⟨hlines, hothers, hdiffer⟩,
    read_exchange hreturn hmark hsplit hfinnish henglish hnames⟩

end Document

end MessageCatalog
