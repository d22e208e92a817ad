import MessageCatalog.Proofs.Document.Reports

/-!
# The order of reports

Every report stands on a line of the document.  The reports come in the order of
their lines, with one exception: that a key has no values is known only where
the key is closed, but it is reported at the key row.  So the order is broken
exactly if some line between such a key row and its end is reported itself.
-/

namespace MessageCatalog

namespace Document

/-- A line below an open key that gives no value and is reported. -/
inductive Faulty (options : ReadOptions) (line : Text) : Prop
  | indentation (hstrict : options.lenientIndentation = false) (hline : Significant line)
      (hzero : ¬ Indented 0 line) (htwo : ¬ Indented 2 line) (hfour : ¬ Indented 4 line)
  | margin (hline : Significant line) (hindent : Indented 0 line)
      (hheading : ¬ IsHeading line)
  | noSeparator (hline : IsFieldRow line) (hequals : '=' ∉ line)
  | unknownPlatform (name list entry : Text) (hfield : field? line = some (name, list))
      (hkind : FieldKind.ofName name = .platforms) (hentry : entry ∈ Text.listEntries list)
      (hname : ¬ IsPlatformName entry)

/-- Of several parts, those whose key is closed. -/
def closedAmong {α : Type} (options : ReadOptions) (list : List α) : List α :=
  if options.requireValuesAtEnd then list else list.dropLast

/-- The key rows and headings that are closed, with the lines below them. -/
def closedBlocks (options : ReadOptions) (lines : List Text) : List (Text × List Text) :=
  closedAmong options (blocks ClosesKey lines)

variable {options : ReadOptions} {preprocessor : Preprocessor}

theorem mem_of_mem_closedAmong {α : Type} {list : List α} {x : α}
    (hx : x ∈ closedAmong options list) : x ∈ list := by
  unfold closedAmong at hx
  split at hx
  · exact hx
  · exact List.dropLast_subset list hx

/-! ## Lines without values -/

theorem Faulty.significant {line : Text} (hfaulty : Faulty options line) :
    Significant line := by
  cases hfaulty with
  | indentation hstrict hline => exact hline
  | margin hline => exact hline
  | noSeparator hline => exact hline.1
  | unknownPlatform name list entry hfield => exact (isFieldRow_of_field? hfield).1

theorem faulty_iff_of_not_indented {line : Text} (hline : Significant line)
    (hzero : ¬ Indented 0 line) (htwo : ¬ Indented 2 line) (hfour : ¬ Indented 4 line) :
    Faulty options line ↔ options.lenientIndentation = false := by
  constructor
  · intro hfaulty
    cases hfaulty with
    | indentation hstrict => exact hstrict
    | margin hsignificant hindent => exact absurd hindent hzero
    | noSeparator hfield => exact absurd hfield.2 hfour
    | unknownPlatform name list entry hfield =>
        exact absurd (isFieldRow_of_field? hfield).2 hfour
  · intro hstrict
    exact .indentation hstrict hline hzero htwo hfour

theorem faulty_iff_of_isFieldRow {line : Text} (hline : IsFieldRow line) :
    Faulty options line ↔
      '=' ∉ line ∨ ∃ name list, field? line = some (name, list) ∧
        FieldKind.ofName name = .platforms ∧
          ∃ entry ∈ Text.listEntries list, ¬ IsPlatformName entry := by
  constructor
  · intro hfaulty
    cases hfaulty with
    | indentation hstrict hsignificant hzero htwo hfour => exact absurd hline.2 hfour
    | margin hsignificant hindent hheading =>
        exact absurd (hindent.unique hline.2) (by decide)
    | noSeparator hfield hequals => exact Or.inl hequals
    | unknownPlatform name list entry hfield hkind hentry hname =>
        exact Or.inr ⟨name, list, hfield, hkind, entry, hentry, hname⟩
  · rintro (hequals | ⟨name, list, hfield, hkind, entry, hentry, hname⟩)
    · exact .noSeparator hline hequals
    · exact .unknownPlatform name list entry hfield hkind hentry hname

theorem faulty_iff_of_field? {line name text : Text} (hfield : field? line = some (name, text))
    (hvalue : FieldKind.ofName name ≠ .value) :
    Faulty options line ↔ Reading.fieldProblems preprocessor name text ≠ [] := by
  have hequals : '=' ∈ line := ((field?_isSome_iff line).mp (by rw [hfield]; rfl)).2
  rw [faulty_iff_of_isFieldRow (isFieldRow_of_field? hfield), hfield]
  unfold Reading.fieldProblems
  cases hkind : FieldKind.ofName name with
  | platforms =>
      rw [Ne, unknownPlatforms_eq_nil_iff]
      simp [hequals, hkind]
  | tags => simp [hequals, hkind]
  | comment => simp [hequals, hkind]
  | value => exact absurd hkind hvalue

theorem lineProblems_eq_nil_iff {line : Text} (hcloses : ¬ ClosesKey line)
    (hvalue : ¬ IsValueRow line) :
    lineProblems options preprocessor true line = [] ↔ ¬ Faulty options line := by
  have hkind := lineKind_ofLine line
  unfold lineProblems
  generalize Row.ofLine line = row at hkind ⊢
  cases hkind with
  | heading hheading => exact absurd (Or.inl hheading) hcloses
  | key hkey => exact absurd (Or.inr hkey) hcloses
  | skipped hline =>
      apply iff_of_true rfl
      intro hfaulty
      exact hline hfaulty.significant
  | mixedIndentation hline hindent =>
      rw [faulty_iff_of_not_indented hline (hindent 0) (hindent 2) (hindent 4)]
      cases options.lenientIndentation <;> simp
  | unexpectedIndentation width hline hindent hzero htwo hfour =>
      rw [faulty_iff_of_not_indented hline (fun h => hzero (hindent.unique h))
        (fun h => htwo (hindent.unique h)) fun h => hfour (hindent.unique h)]
      cases options.lenientIndentation <;> simp
  | unindented hline hindent hheading =>
      apply iff_of_false (by simp)
      exact not_not.mpr (.margin hline hindent hheading)
  | noSeparator hline hfield =>
      apply iff_of_false (by simp)
      apply not_not.mpr
      apply Faulty.noSeparator hline
      intro hequals
      have hsome := (field?_isSome_iff line).mpr ⟨hline, hequals⟩
      rw [hfield] at hsome
      cases hsome
  | field name text hline hfield =>
      have hother : FieldKind.ofName name ≠ .value :=
        fun hname => hvalue ⟨name, text, hfield, hname⟩
      rw [faulty_iff_of_field? hfield hother, not_not]
      rfl

/-! ## Reports on a part -/

theorem pairwise_zipIdx (lines : List Text) :
    (lines.zipIdx 1).Pairwise fun first second => first.2 < second.2 := by
  have hnumbers : ((lines.zipIdx 1).map Prod.snd).Pairwise (· < ·) := by
    rw [List.zipIdx_map_snd]
    exact List.pairwise_lt_range' 1
  exact List.pairwise_map.mp hnumbers

theorem eq_head_of_mem_closingReports {part : Part (Text × Nat)} {report : Report}
    (hreport : report ∈ OpenKey.closingReports (openKeyOf part)) :
    ∃ head ∈ part.head, report.line = head.2 := by
  obtain ⟨head, body⟩ := part
  cases head with
  | none => cases hreport
  | some head =>
      refine ⟨head, rfl, ?_⟩
      change report ∈ OpenKey.closingReports (openKeyOf (.ofBlock (head, body))) at hreport
      rw [closingReports_openKeyOf_ofBlock] at hreport
      split at hreport
      · rw [List.mem_singleton.mp hreport]
      · cases hreport

theorem exists_of_mem_bodyReports {part : Part (Text × Nat)} {report : Report}
    (hreport : report ∈ bodyReports options preprocessor part) :
    ∃ line ∈ part.body, report.line = line.2 := by
  obtain ⟨line, hline, hreport⟩ := List.mem_flatMap.mp hreport
  obtain ⟨problem, -, rfl⟩ := List.mem_map.mp hreport
  exact ⟨line, hline, rfl⟩

theorem exists_of_mem_partReports {part : Part (Text × Nat)} {report : Report}
    (hreport : report ∈ partReports options preprocessor part) :
    ∃ line ∈ part.toList, report.line = line.2 := by
  rcases List.mem_append.mp hreport with hbody | hclosing
  · obtain ⟨line, hline, heq⟩ := exists_of_mem_bodyReports hbody
    exact ⟨line, Part.mem_toList_of_mem_body hline, heq⟩
  · obtain ⟨head, hhead, heq⟩ := eq_head_of_mem_closingReports hclosing
    exact ⟨head, Part.mem_toList_of_mem_head hhead, heq⟩

theorem pairwise_bodyReports {part : Part (Text × Nat)}
    (hpart : part.toList.Pairwise fun first second => first.2 < second.2) :
    (bodyReports options preprocessor part).Pairwise fun first second =>
      first.line ≤ second.line := by
  have hbody := (List.pairwise_append.mp hpart).2.1
  unfold bodyReports
  rw [List.pairwise_flatMap]
  constructor
  · intro line _
    unfold lineReports
    rw [List.pairwise_map]
    exact List.pairwise_of_forall fun first second => Nat.le_refl line.2
  · apply hbody.imp
    intro first second hlt report hreport other hother
    obtain ⟨problem, -, rfl⟩ := List.mem_map.mp hreport
    obtain ⟨problem, -, rfl⟩ := List.mem_map.mp hother
    exact Nat.le_of_lt hlt

/-- The missing values of a key are reported behind everything below its row, on
the line of that row. -/
theorem pairwise_partReports_iff {part : Part (Text × Nat)}
    (hpart : part.toList.Pairwise fun first second => first.2 < second.2) :
    ((partReports options preprocessor part).Pairwise fun first second =>
        first.line ≤ second.line) ↔
      OpenKey.closingReports (openKeyOf part) = [] ∨
        bodyReports options preprocessor part = [] := by
  -- The two kinds of reports exclude one another: a closing report comes last, but
  -- its line is the first one.
  have hcross : ∀ report ∈ bodyReports options preprocessor part,
      ∀ closing ∈ OpenKey.closingReports (openKeyOf part), closing.line < report.line := by
    intro report hreport closing hclosing
    obtain ⟨line, hline, heq⟩ := exists_of_mem_bodyReports hreport
    obtain ⟨head, hhead, heq'⟩ := eq_head_of_mem_closingReports hclosing
    rw [heq, heq']
    exact (List.pairwise_append.mp hpart).2.2 head (by simpa using hhead) line hline
  have hclosing : (OpenKey.closingReports (openKeyOf part)).Pairwise fun first second =>
      first.line ≤ second.line := by
    unfold OpenKey.closingReports
    split
    · exact List.Pairwise.nil
    · split
      · exact List.Pairwise.nil
      · exact List.pairwise_singleton _ _
  rw [partReports, List.pairwise_append]
  constructor
  · rintro ⟨-, -, hordered⟩
    by_contra hboth
    obtain ⟨hleft, hright⟩ := not_or.mp hboth
    obtain ⟨closing, hmem⟩ := List.exists_mem_of_ne_nil _ hleft
    obtain ⟨report, hreport⟩ := List.exists_mem_of_ne_nil _ hright
    have hlt := hcross report hreport closing hmem
    have hle := hordered report hreport closing hmem
    omega
  · intro hempty
    refine ⟨pairwise_bodyReports hpart, hclosing, ?_⟩
    intro report hreport closing hmem
    rcases hempty with hnil | hnil
    · rw [hnil] at hmem
      cases hmem
    · rw [hnil] at hreport
      cases hreport

/-! ## Reports on several parts -/

/-- The lines of a part are in order, and in front of those of every later one. -/
structure Ordered (list : List (Part (Text × Nat))) : Prop where
  inside : ∀ part ∈ list, part.toList.Pairwise fun first second => first.2 < second.2
  between : list.Pairwise fun left right =>
    ∀ first ∈ left.toList, ∀ second ∈ right.toList, first.2 < second.2

theorem ordered_partsOf (lines : List Text) : Ordered (partsOf lines) := by
  obtain ⟨hinside, hbetween⟩ :=
    pairwise_parts (fun line : Text × Nat => ClosesKey line.1) (pairwise_zipIdx lines)
  exact ⟨hinside, hbetween⟩

theorem Ordered.pairwise_flatMap_iff {list : List (Part (Text × Nat))} (hlist : Ordered list) :
    ((list.flatMap (partReports options preprocessor)).Pairwise fun first second =>
        first.line ≤ second.line) ↔
      ∀ part ∈ list, OpenKey.closingReports (openKeyOf part) = [] ∨
        bodyReports options preprocessor part = [] := by
  rw [List.pairwise_flatMap]
  have hbetween : list.Pairwise fun left right =>
      ∀ report ∈ partReports options preprocessor left,
        ∀ other ∈ partReports options preprocessor right, report.line ≤ other.line := by
    apply hlist.between.imp
    intro left right hlt report hreport other hother
    obtain ⟨line, hline, heq⟩ := exists_of_mem_partReports hreport
    obtain ⟨line', hline', heq'⟩ := exists_of_mem_partReports hother
    rw [heq, heq']
    exact Nat.le_of_lt (hlt line hline line' hline')
  rw [and_iff_left hbetween]
  apply forall₂_congr
  intro part hpart
  exact pairwise_partReports_iff (hlist.inside part hpart)

/-- What is reported on the last part while its key stays open comes in order. -/
theorem Ordered.pairwise_concat_iff {closed : List (Part (Text × Nat))}
    {last : Part (Text × Nat)} (hlist : Ordered (closed ++ [last])) :
    ((closed.flatMap (partReports options preprocessor) ++
        bodyReports options preprocessor last).Pairwise fun first second =>
        first.line ≤ second.line) ↔
      ∀ part ∈ closed, OpenKey.closingReports (openKeyOf part) = [] ∨
        bodyReports options preprocessor part = [] := by
  obtain ⟨hclosed, -, hlast⟩ := List.pairwise_append.mp hlist.between
  have hordered : Ordered closed :=
    ⟨fun part hpart => hlist.inside part (List.mem_append_left [last] hpart), hclosed⟩
  rw [List.pairwise_append, hordered.pairwise_flatMap_iff, and_iff_left]
  refine ⟨pairwise_bodyReports (hlist.inside last (by simp)), ?_⟩
  intro report hreport other hother
  obtain ⟨part, hpart, hreport⟩ := List.mem_flatMap.mp hreport
  obtain ⟨line, hline, heq⟩ := exists_of_mem_partReports hreport
  obtain ⟨line', hline', heq'⟩ := exists_of_mem_bodyReports hother
  rw [heq, heq']
  exact Nat.le_of_lt
    (hlast part hpart last (by simp) line hline line' (Part.mem_toList_of_mem_body hline'))

theorem line_mem_of_mem_reports_read {text : Text} {report : Report}
    (hreport : report ∈ (read options preprocessor text).reports) :
    ∃ line ∈ (lines (dropByteOrderMark text)).zipIdx 1, report.line = line.2 := by
  obtain ⟨closed, last, hparts, hreports⟩ :=
    exists_parts_reports_read options preprocessor text
  have hpart : ∃ part ∈ closed ++ [last], ∃ line ∈ part.toList, report.line = line.2 := by
    rw [hreports] at hreport
    rcases List.mem_append.mp hreport with hmem | hmem
    · obtain ⟨part, hpart, hmem⟩ := List.mem_flatMap.mp hmem
      exact ⟨part, List.mem_append_left [last] hpart, exists_of_mem_partReports hmem⟩
    · refine ⟨last, by simp, ?_⟩
      split at hmem
      · exact exists_of_mem_partReports hmem
      · obtain ⟨line, hline, heq⟩ := exists_of_mem_bodyReports hmem
        exact ⟨line, Part.mem_toList_of_mem_body hline, heq⟩
  obtain ⟨part, hpart, line, hline, heq⟩ := hpart
  refine ⟨line, ?_, heq⟩
  rw [← flatMap_toList_parts (fun line => ClosesKey line.1)
    ((lines (dropByteOrderMark text)).zipIdx 1)]
  rw [← hparts] at hpart
  exact List.mem_flatMap_of_mem hpart hline

theorem pairwise_reports_read_iff (text : Text) :
    ((read options preprocessor text).reports.Pairwise fun first second =>
        first.line ≤ second.line) ↔
      ∀ part ∈ closedAmong options (partsOf (lines (dropByteOrderMark text))),
        OpenKey.closingReports (openKeyOf part) = [] ∨
          bodyReports options preprocessor part = [] := by
  obtain ⟨closed, last, hparts, hreports⟩ :=
    exists_parts_reports_read options preprocessor text
  have hordered := ordered_partsOf (lines (dropByteOrderMark text))
  rw [hparts] at hordered
  unfold closedAmong
  rw [hreports, hparts]
  by_cases hrequire : options.requireValuesAtEnd = true
  · rw [if_pos hrequire, if_pos hrequire, ← hordered.pairwise_flatMap_iff,
      List.flatMap_append, List.flatMap_singleton]
  · rw [if_neg hrequire, if_neg hrequire, List.dropLast_concat,
      hordered.pairwise_concat_iff]

/-! ## Conditions on the lines -/

theorem closedBlocks_eq (lines : List Text) :
    closedBlocks options lines =
      (closedAmong options
        (blocks (fun line : Text × Nat => ClosesKey line.1) (lines.zipIdx 1))).map
          fun block => (block.1.1, block.2.map Prod.fst) := by
  have hblocks := blocks_map ClosesKey Prod.fst (lines.zipIdx 1)
  rw [List.zipIdx_map_fst] at hblocks
  unfold closedBlocks closedAmong
  rw [hblocks]
  split
  · rfl
  · rw [List.map_dropLast]

/-- The part in front of all key rows and headings is never at fault. -/
theorem forall_closedAmong_partsOf_iff (lines : List Text)
    {condition : Part (Text × Nat) → Prop} (hfront : ∀ body, condition ⟨none, body⟩) :
    (∀ part ∈ closedAmong options (partsOf lines), condition part) ↔
      ∀ block ∈ closedAmong options
        (blocks (fun line : Text × Nat => ClosesKey line.1) (lines.zipIdx 1)),
          condition (.ofBlock block) := by
  unfold closedAmong partsOf parts
  split
  · rw [List.forall_mem_cons, List.forall_mem_map]
    exact and_iff_right (hfront _)
  · cases blocks (fun line : Text × Nat => ClosesKey line.1) (lines.zipIdx 1) with
    | nil => simp
    | cons block rest =>
        rw [List.map_cons, List.dropLast_cons_cons, List.forall_mem_cons, ← List.map_cons,
          ← List.map_dropLast, List.forall_mem_map]
        exact and_iff_right (hfront _)

theorem closing_or_body_eq_nil_iff {block : (Text × Nat) × List (Text × Nat)}
    (hblock : ∀ line ∈ block.2, ¬ ClosesKey line.1) :
    (OpenKey.closingReports (openKeyOf (.ofBlock block)) = [] ∨
        bodyReports options preprocessor (.ofBlock block) = []) ↔
      (IsKeyRow block.1.1 → (∀ row ∈ block.2.map Prod.fst, ¬ IsValueRow row) →
        ∀ line ∈ block.2.map Prod.fst, ¬ Faulty options line) := by
  rw [closingReports_openKeyOf_ofBlock, List.forall_mem_map, List.forall_mem_map]
  by_cases hempty : IsKeyRow block.1.1 ∧ ∀ row ∈ block.2, ¬ IsValueRow row.1
  · obtain ⟨hkey, hnone⟩ := hempty
    have hbody : bodyReports options preprocessor (.ofBlock block) = [] ↔
        ∀ line ∈ block.2, ¬ Faulty options line.1 := by
      unfold bodyReports
      rw [isSome_openKeyOf_ofBlock, decide_eq_true hkey, List.flatMap_eq_nil_iff]
      apply forall₂_congr
      intro line hline
      rw [lineReports, List.map_eq_nil_iff]
      exact lineProblems_eq_nil_iff (hblock line hline) (hnone line hline)
    rw [if_pos ⟨hkey, hnone⟩, hbody]
    simp only [List.cons_ne_nil, false_or]
    exact ⟨fun hall _ _ => hall, fun hall => hall hkey hnone⟩
  · rw [if_neg hempty]
    apply iff_of_true (Or.inl rfl)
    intro hkey hnone
    exact absurd ⟨hkey, hnone⟩ hempty

/-- Every report stands on one of the lines.  The reports come in the order of
their lines if and only if no line below a closed key row without values is at
fault. -/
theorem reports_read_inOrder_iff (options : ReadOptions) (preprocessor : Preprocessor)
    (text : Text) :
    (∀ report ∈ (read options preprocessor text).reports,
        1 ≤ report.line ∧ report.line ≤ (lines (dropByteOrderMark text)).length) ∧
      (((read options preprocessor text).reports.Pairwise fun first second =>
          first.line ≤ second.line) ↔
        ∀ block ∈ closedBlocks options (lines (dropByteOrderMark text)),
          IsKeyRow block.1 → (∀ row ∈ block.2, ¬ IsValueRow row) →
            ∀ line ∈ block.2, ¬ Faulty options line) := by
  constructor
  · intro report hreport
    obtain ⟨line, hline, heq⟩ := line_mem_of_mem_reports_read hreport
    obtain ⟨hfirst, hlast, -⟩ := List.mem_zipIdx (x := line.1) (i := line.2) hline
    omega
  · rw [pairwise_reports_read_iff, forall_closedAmong_partsOf_iff _ (fun body => Or.inl rfl),
      closedBlocks_eq, List.forall_mem_map]
    apply forall₂_congr
    intro block hblock
    apply closing_or_body_eq_nil_iff
    apply not_isHead_of_mem_blocks
    exact mem_of_mem_closedAmong hblock

/-- A key row with nothing below it but a line without an equals sign. -/
theorem not_forall_reports_read_inOrder :
    (read .standard .identity "  A\n    x\n".toList).reports =
        [⟨2, .noSeparator "    x".toList⟩, ⟨1, .noValues "A".toList⟩] ∧
      ¬ ∀ options preprocessor text,
        (read options preprocessor text).reports.Pairwise fun first second =>
          first.line ≤ second.line := by
  have hreports : (read .standard .identity "  A\n    x\n".toList).reports =
      [⟨2, .noSeparator "    x".toList⟩, ⟨1, .noValues "A".toList⟩] := by
    decide
  refine ⟨hreports, ?_⟩
  intro hall
  have hordered := hall .standard .identity "  A\n    x\n".toList
  rw [hreports] at hordered
  exact absurd hordered (by decide)

end Document

end MessageCatalog
