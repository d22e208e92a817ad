import MessageCatalog.Proofs.Document.Composition
import MessageCatalog.Proofs.Text.Joining

/-!
# Blank lines and comments

A blank line or a comment may be inserted anywhere: between two lines of a document,
in front of the first or behind the last.  Nothing is read from it.  All that happens
is that the lines behind it get the next higher number, and with them the reports.  A
key keeps the number of its own line, even if it is reported behind the insertion.
-/

namespace MessageCatalog

/-- The number of a line after another line has been inserted behind the first
`number` lines. -/
def shiftedBehind (number line : Nat) : Nat := if line ≤ number then line else line + 1

theorem shiftedBehind_of_le {number line : Nat} (hline : line ≤ number) :
    shiftedBehind number line = line :=
  if_pos hline

theorem shiftedBehind_of_lt {number line : Nat} (hline : number < line) :
    shiftedBehind number line = line + 1 :=
  if_neg (by omega)

/-! ## Runs -/

namespace Reading

variable (options : ReadOptions) (preprocessor : Preprocessor)

/-- Up to the insertion both readings are the same, and from then on the line numbers
of the one are those of the other plus one. -/
theorem after_insert {front shown rest : List Text}
    (hshown : ∀ line ∈ shown, ¬ Document.Significant line)
    (hone : shown.length = 1 ∨ rest = []) :
    after options preprocessor (front ++ shown ++ rest) =
      (after options preprocessor (front ++ rest)).renumbered (shiftedBehind front.length) := by
  have hfront : (after options preprocessor front).renumbered (shiftedBehind front.length) =
      after options preprocessor front := by
    apply NumbersSatisfy.renumbered_eq_self
    apply (numbersSatisfy_after options preprocessor front).imp
    rintro number ⟨-, hle⟩
    exact shiftedBehind_of_le hle
  have hinserted : after options preprocessor (front ++ shown ++ rest) =
      (after options preprocessor front).steps options preprocessor
        (1 + front.length + shown.length) rest := by
    unfold after
    rw [List.append_assoc, steps_append, steps_append,
      steps_of_not_significant options preprocessor hshown]
  have hplain : after options preprocessor (front ++ rest) =
      (after options preprocessor front).steps options preprocessor (1 + front.length) rest :=
    steps_append options preprocessor front rest start 1
  rw [hinserted, hplain]
  rcases hone with hone | rfl
  · have hnumber : 1 + front.length + shown.length =
        shiftedBehind front.length (1 + front.length) := by
      rw [shiftedBehind_of_lt (by omega), hone]
    have hrename : ∀ other, 1 + front.length ≤ other →
        shiftedBehind front.length (other + 1) = shiftedBehind front.length other + 1 := by
      intro other hle
      rw [shiftedBehind_of_lt (by omega), shiftedBehind_of_lt (by omega)]
    rw [← steps_renumbered options preprocessor _ hrename, hfront, hnumber]
  · exact hfront.symm

end Reading

namespace Document

/-! ## Texts with another line -/

instance (text : Text) : Decidable (EndsLine text) :=
  inferInstanceAs (Decidable (text = [] ∨ _))

/-- The text with its last line ended, if it is not yet. -/
def endLine (text : Text) : Text := if EndsLine text then text else text ++ ['\n']

theorem endsLine_endLine (text : Text) : EndsLine (endLine text) := by
  unfold endLine
  split
  · assumption
  · exact Or.inr List.getLast?_concat

theorem lines_nil : lines [] = [] := rfl

theorem splitOn_of_not_endsLine {text : Text} (htext : ¬ EndsLine text) :
    ∃ pieces last, Text.splitOn '\n' text = pieces ++ [last] ∧ last ≠ [] := by
  rcases List.eq_nil_or_concat' (Text.splitOn '\n' text) with hnil | ⟨pieces, last, hsplit⟩
  · exact absurd hnil (Text.splitOn_ne_nil '\n' text)
  · refine ⟨pieces, last, hsplit, ?_⟩
    rintro rfl
    apply htext
    by_cases hpieces : pieces = []
    · have hjoin := Text.join_splitOn '\n' text
      rw [hsplit, hpieces] at hjoin
      exact Or.inl hjoin.symm
    · obtain ⟨front, hfront⟩ := Text.suffix_of_splitOn hsplit hpieces
      rw [← hfront]
      exact Or.inr List.getLast?_concat

theorem lines_endLine {text : Text} (hreturn : '\r' ∉ text) :
    lines (endLine text) = lines text := by
  unfold endLine
  by_cases hends : EndsLine text
  · rw [if_pos hends]
  · obtain ⟨pieces, last, hsplit, hlast⟩ := splitOn_of_not_endsLine hends
    have hend : last.getLast? ≠ some '\r' := by
      intro hmem
      have hpiece : last ∈ Text.splitOn '\n' text := by simp [hsplit]
      exact hreturn (Text.mem_of_mem_splitOn hpiece (List.mem_of_getLast? hmem))
    have hline : linesOfPieces [last] = [last] := linesOfPieces_cons hlast hend []
    have hkept : dropReturn last = last := if_neg hend
    rw [if_neg hends, lines_append_cons text [], lines_nil, List.append_nil, lines, hsplit,
      linesOfPieces_append pieces (List.cons_ne_nil last []), hline, List.map_append,
      List.map_singleton, hkept]

theorem trim_dropReturn (line : Text) : Text.trim (dropReturn line) = Text.trim line := by
  unfold dropReturn
  split
  · next hlast =>
      obtain ⟨front, rfl⟩ := List.getLast?_eq_some_iff.mp hlast
      have hblank : ∀ c ∈ ['\r'], isBlank c = true := by
        rw [List.forall_mem_singleton]
        decide
      rw [List.dropLast_concat, Text.trim_append_right front hblank]
  · rfl

theorem significant_dropReturn_iff (line : Text) :
    Significant (dropReturn line) ↔ Significant line := by
  unfold Significant
  rw [trim_dropReturn]

theorem exists_lines_append {line ending after : Text} (hline : '\n' ∉ line)
    (hinert : ¬ Significant line) (hending : ending = ['\n'] ∨ ending = [] ∧ after = []) :
    ∃ shown, (∀ other ∈ shown, ¬ Significant other) ∧
      (shown.length = 1 ∨ lines after = []) ∧
      lines (line ++ ending ++ after) = shown ++ lines after := by
  rcases hending with rfl | ⟨rfl, rfl⟩
  · refine ⟨[dropReturn line], ?_, Or.inl rfl, ?_⟩
    · rw [List.forall_mem_singleton, significant_dropReturn_iff]
      exact hinert
    · rw [List.append_assoc, List.singleton_append, lines_append_cons,
        Text.splitOn_of_not_mem hline, List.map_singleton]
  · have hsplit : Text.splitOn '\n' (line ++ [] ++ []) = [line] := by
      rw [List.append_nil, List.append_nil, Text.splitOn_of_not_mem hline]
    refine ⟨lines (line ++ [] ++ []), ?_, Or.inr lines_nil, (List.append_nil _).symm⟩
    rw [lines, hsplit, linesOfPieces]
    split
    · exact List.forall_mem_nil _
    · rw [List.forall_mem_singleton]
      exact hinert

/-- No blank line and no comment begins with a byte order mark. -/
theorem head?_ne_mark_of_not_significant {line : Text} (hinert : ¬ Significant line) :
    line.head? ≠ some '\uFEFF' := by
  intro hhead
  have hmark : isBlank '\uFEFF' = false := by decide
  have hmem : '\uFEFF' ∈ Text.trim line := by
    rw [mem_trim_iff hmark]
    exact List.mem_of_head? hhead
  have hfirst : ∀ c ∈ line.head?, isBlank c = false := by
    intro c hc
    rw [hhead] at hc
    obtain rfl := Option.some.inj hc
    exact hmark
  apply hinert
  refine ⟨List.ne_nil_of_mem hmem, ?_⟩
  intro hcomment
  have hsame := Text.head?_trim_of_head? hfirst '#' hcomment
  rw [hhead] at hsame
  exact absurd (Option.some.inj hsame) (by decide)

theorem head?_insertLine_ne_mark {before after line ending : Text}
    (hmark : (before ++ after).head? ≠ some '\uFEFF') (hinert : ¬ Significant line)
    (hending : ending = ['\n'] ∨ ending = [] ∧ after = []) :
    (endLine before ++ (line ++ ending ++ after)).head? ≠ some '\uFEFF' := by
  cases before with
  | nil =>
      have hempty : endLine [] = [] := rfl
      rw [hempty, List.nil_append]
      cases line with
      | nil =>
          rcases hending with rfl | ⟨rfl, rfl⟩
          · intro hhead
            exact absurd (Option.some.inj hhead) (by decide)
          · exact hmark
      | cons c rest =>
          have hhead := head?_ne_mark_of_not_significant hinert
          exact hhead
  | cons c rest =>
      have hbegin : (endLine (c :: rest)).head? = some c := by
        unfold endLine
        split <;> rfl
      rw [List.head?_append, hbegin]
      exact hmark

/-! ## Whole documents -/

variable {options : ReadOptions} {preprocessor : Preprocessor}

/-- A blank line or a comment that is inserted behind some lines of a document, which
may be none or all of them, leaves the catalog as it is and moves the reports on the
lines behind it by one. -/
theorem read_insertLine {before after line ending : Text}
    (hreturn : '\r' ∉ before ++ after) (hmark : (before ++ after).head? ≠ some '\uFEFF')
    (hposition : EndsLine before ∨ after = []) (hline : '\n' ∉ line)
    (hinert : Text.trim line = [] ∨ (Text.trim line).head? = some '#')
    (hending : ending = ['\n'] ∨ ending = [] ∧ after = []) :
    read options preprocessor (endLine before ++ (line ++ ending ++ after)) =
      (read options preprocessor (before ++ after)).renumbered
        (shiftedBehind (lines before).length) := by
  have hskipped : ¬ Significant line := by
    rintro ⟨hblank, hcomment⟩
    exact hinert.elim hblank hcomment
  have hbefore : '\r' ∉ before := fun hmem => hreturn (List.mem_append_left after hmem)
  have hplain : lines (before ++ after) = lines before ++ lines after := by
    rcases hposition with hends | rfl
    · exact lines_append hends after
    · rw [lines_nil, List.append_nil, List.append_nil]
  obtain ⟨shown, hshown, hone, htail⟩ := exists_lines_append hline hskipped hending
  have hinserted : lines (endLine before ++ (line ++ ending ++ after)) =
      lines before ++ shown ++ lines after := by
    rw [lines_append (endsLine_endLine before), lines_endLine hbefore, htail, List.append_assoc]
  have hafter : Reading.after options preprocessor (lines before ++ shown ++ lines after) =
      (Reading.after options preprocessor (lines before ++ lines after)).renumbered
        (shiftedBehind (lines before).length) :=
    Reading.after_insert options preprocessor hshown hone
  unfold Reading.after at hafter
  unfold read Outcome.renumbered
  rw [dropByteOrderMark_eq_self hmark,
    dropByteOrderMark_eq_self (head?_insertLine_ne_mark hmark hskipped hending), hinserted,
    hplain, hafter, Reading.finish_renumbered]
  rfl

/-- The key `A` is reported on its own line, behind the reports on the lines below it. -/
def reportedFront : Text := "=== S ===\n  A\n    x\n".toList

def reportedRest : Text := "\ty\n    platforms = mac\n  B\n    en = {z:@}".toList

/-- White space of several kinds, a comment, and a carriage return at the end. -/
def inertLine : Text := "\t \u00A0\u3000# ===\r".toList

theorem read_insertLine_inertLine :
    ('\r' ∉ reportedFront ++ reportedRest ∧
      (reportedFront ++ reportedRest).head? ≠ some '\uFEFF' ∧ EndsLine reportedFront ∧
      '\n' ∉ inertLine ∧ (Text.trim inertLine).head? = some '#') ∧
      ((read .standard .identity (reportedFront ++ reportedRest)).reports.map Report.line =
        [3, 4, 5, 2, 7]) ∧
      read .standard .identity
          (endLine reportedFront ++ (inertLine ++ ['\n'] ++ reportedRest)) =
        (read .standard .identity (reportedFront ++ reportedRest)).renumbered
          (shiftedBehind (lines reportedFront).length) := by
  have hreturn : '\r' ∉ reportedFront ++ reportedRest := by decide
  have hmark : (reportedFront ++ reportedRest).head? ≠ some '\uFEFF' := by decide
  have hposition : EndsLine reportedFront := by decide
  have hline : '\n' ∉ inertLine := by decide
  have hinert : (Text.trim inertLine).head? = some '#' := by decide
  have hreports :
      (read .standard .identity (reportedFront ++ reportedRest)).reports.map Report.line =
        [3, 4, 5, 2, 7] := by
    decide +kernel
  exact ⟨⟨hreturn, hmark, hposition, hline, hinert⟩, hreports,
    read_insertLine hreturn hmark (Or.inl hposition) hline (Or.inr hinert) (Or.inl rfl)⟩

end Document

end MessageCatalog
