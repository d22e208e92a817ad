import MessageCatalog.Document.Row
import MessageCatalog.Proofs.Text.Splitting
import MessageCatalog.Proofs.Text.Trimming

/-!
# Joined texts

Lists and lines come apart again after they have been put together, provided
that no part contains the separator.  The entries of a list have to be trimmed
as well, and a line must not end in a carriage return.
-/

namespace MessageCatalog

namespace Text

theorem trim_cons_of_isBlank {c : Char} (hc : isBlank c = true) (text : Text) :
    trim (c :: text) = trim text := by
  unfold trim dropAround
  rw [List.dropWhile_cons_of_pos hc]

/-- A blank in front of a list belongs to no entry. -/
theorem listEntries_cons_of_isBlank {c : Char} (hc : isBlank c = true) (hcomma : c ≠ ',')
    (list : Text) : listEntries (c :: list) = listEntries list := by
  unfold listEntries
  rw [splitOn, if_neg hcomma]
  cases hpieces : splitOn ',' list with
  | nil => exact absurd hpieces (splitOn_ne_nil ',' list)
  | cons piece pieces =>
      rw [consHead, List.map_cons, List.map_cons, trim_cons_of_isBlank hc]

theorem listEntries_append_comma {entry : Text} (htrim : trim entry = entry)
    (hnil : entry ≠ []) (hcomma : ',' ∉ entry) (rest : Text) :
    listEntries (entry ++ ',' :: rest) = entry :: listEntries rest := by
  have hkept : (!entry.isEmpty) = true := by simpa using hnil
  unfold listEntries
  rw [splitOn_append_separator hcomma, List.map_cons, htrim, List.filter_cons,
    if_pos hkept]

theorem listEntries_join {entries : List Text}
    (hentries : ∀ entry ∈ entries, entry ≠ [] ∧ trim entry = entry ∧ ',' ∉ entry) :
    listEntries (join ", ".toList entries) = entries := by
  induction entries with
  | nil => rfl
  | cons entry entries ih =>
      obtain ⟨hnil, htrim, hcomma⟩ := hentries entry (by simp)
      have hrest := ih fun other hother => hentries other (List.mem_cons_of_mem entry hother)
      cases entries with
      | nil =>
          rw [join_singleton]
          unfold listEntries
          rw [splitOn_of_not_mem hcomma, List.map_singleton, htrim]
          simpa using hnil
      | cons next more =>
          calc
            listEntries (join ", ".toList (entry :: next :: more)) =
                listEntries (entry ++ ',' :: ' ' :: join ", ".toList (next :: more)) := by
              simp
            _ = entry :: listEntries (' ' :: join ", ".toList (next :: more)) :=
              listEntries_append_comma htrim hnil hcomma _
            _ = entry :: listEntries (join ", ".toList (next :: more)) := by
              rw [listEntries_cons_of_isBlank (by decide) (by decide)]
            _ = entry :: next :: more := by rw [hrest]

theorem splitOn_join {separator : Char} {pieces : List Text} (hne : pieces ≠ [])
    (hpieces : ∀ piece ∈ pieces, separator ∉ piece) :
    splitOn separator (join [separator] pieces) = pieces := by
  induction pieces with
  | nil => exact absurd rfl hne
  | cons piece pieces ih =>
      have hpiece : separator ∉ piece := hpieces piece List.mem_cons_self
      cases pieces with
      | nil =>
          rw [join_singleton]
          exact splitOn_of_not_mem hpiece
      | cons next more =>
          rw [join_cons_cons, List.append_assoc, List.singleton_append,
            splitOn_append_separator hpiece, ih (List.cons_ne_nil next more)]
          intro other hother
          exact hpieces other (List.mem_cons_of_mem piece hother)

theorem join_splitOn (separator : Char) (text : Text) :
    join [separator] (splitOn separator text) = text := by
  induction text with
  | nil => rfl
  | cons c rest ih =>
      rw [splitOn]
      cases hrest : splitOn separator rest with
      | nil => exact absurd hrest (splitOn_ne_nil separator rest)
      | cons piece pieces =>
          rw [hrest] at ih
          by_cases hc : c = separator
          · rw [if_pos hc, join_cons_cons, ih, hc]
            rfl
          · rw [if_neg hc, consHead, ← ih]
            cases pieces with
            | nil => rfl
            | cons next more => simp

theorem join_append (separator : Text) {left right : List Text} (hleft : left ≠ [])
    (hright : right ≠ []) :
    join separator (left ++ right) = join separator left ++ separator ++ join separator right := by
  induction left with
  | nil => exact absurd rfl hleft
  | cons piece pieces ih =>
      cases pieces with
      | nil =>
          obtain ⟨next, more, rfl⟩ := List.exists_cons_of_ne_nil hright
          rfl
      | cons next more =>
          have hmore := ih (List.cons_ne_nil next more)
          rw [List.cons_append] at hmore ⊢
          rw [join_cons_cons, List.cons_append, join_cons_cons, hmore]
          simp only [List.append_assoc]

theorem suffix_of_splitOn {separator : Char} {text piece : Text} {before : List Text}
    (hsplit : splitOn separator text = before ++ [piece]) (hbefore : before ≠ []) :
    separator :: piece <:+ text := by
  have htext := join_splitOn separator text
  rw [hsplit, join_append [separator] hbefore (List.cons_ne_nil piece []), List.append_assoc,
    List.singleton_append] at htext
  exact ⟨_, htext⟩

/-- Only the first piece and the last one do not have separators on both sides. -/
theorem infix_of_splitOn {separator : Char} {text piece : Text} {before after : List Text}
    (hsplit : splitOn separator text = before ++ piece :: after) (hbefore : before ≠ [])
    (hafter : after ≠ []) : separator :: (piece ++ [separator]) <:+: text := by
  have htext := join_splitOn separator text
  obtain ⟨next, more, rfl⟩ := List.exists_cons_of_ne_nil hafter
  rw [hsplit, join_append [separator] hbefore (List.cons_ne_nil _ _), join_cons_cons] at htext
  refine ⟨join [separator] before, join [separator] (next :: more), ?_⟩
  rw [← htext]
  simp

theorem head?_of_head?_join {separator c : Char} (hc : c ≠ separator) {piece : Text}
    {pieces : List Text} (hhead : (join [separator] (piece :: pieces)).head? = some c) :
    piece.head? = some c := by
  cases pieces with
  | nil => exact hhead
  | cons next more =>
      cases piece with
      | nil => exact absurd (Option.some.inj hhead).symm hc
      | cons d rest => exact hhead

theorem not_mem_join {c : Char} {separator : Text} (hseparator : c ∉ separator)
    {pieces : List Text} (hpieces : ∀ piece ∈ pieces, c ∉ piece) :
    c ∉ join separator pieces := by
  induction pieces with
  | nil => simp
  | cons piece pieces ih =>
      have hpiece : c ∉ piece := hpieces piece (by simp)
      have hrest := ih fun other hother => hpieces other (List.mem_cons_of_mem piece hother)
      cases pieces with
      | nil => exact hpiece
      | cons next more =>
          rw [join_cons_cons, List.mem_append, List.mem_append]
          rintro ((hmem | hmem) | hmem)
          · exact hpiece hmem
          · exact hseparator hmem
          · exact hrest hmem

end Text

namespace Document

theorem lines_append_lineFeed {line : Text} (hline : '\n' ∉ line)
    (hreturn : line.getLast? ≠ some '\r') (rest : Text) :
    lines (line ++ '\n' :: rest) = line :: lines rest := by
  unfold lines
  rw [Text.splitOn_append_separator hline]
  cases hpieces : Text.splitOn '\n' rest with
  | nil => exact absurd hpieces (Text.splitOn_ne_nil '\n' rest)
  | cons piece pieces => rw [linesOfPieces, dropReturn, if_neg hreturn]

/-- Lines that are each ended by a line feed. -/
theorem lines_flatMap {list : List Text} (hlineFeed : ∀ line ∈ list, '\n' ∉ line)
    (hreturn : ∀ line ∈ list, line.getLast? ≠ some '\r') :
    lines (list.flatMap fun line => line ++ ['\n']) = list := by
  induction list with
  | nil => rfl
  | cons line list ih =>
      have hrest : lines (list.flatMap fun line => line ++ ['\n']) = list := by
        apply ih
        · intro other hother
          exact hlineFeed other (List.mem_cons_of_mem line hother)
        · intro other hother
          exact hreturn other (List.mem_cons_of_mem line hother)
      rw [List.flatMap_cons, List.append_assoc, List.singleton_append,
        lines_append_lineFeed (hlineFeed line (by simp)) (hreturn line (by simp)), hrest]

end Document

end MessageCatalog
