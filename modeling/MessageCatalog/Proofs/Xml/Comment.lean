import MessageCatalog.Xml.Comment
import MessageCatalog.Proofs.Text.Neighbours

/-!
# Comments made safe

A text that was made safe holds no two hyphens in a row, also not together with
the hyphens that close the comment.
-/

namespace MessageCatalog

namespace Xml

theorem hyphenPairs_eq_zero_iff {text : Text} :
    hyphenPairs text = 0 ↔ ¬ ['-', '-'] <:+: text := by
  induction text with
  | nil => simp [hyphenPairs]
  | cons c rest ih =>
      rw [hyphenPairs_cons, Text.pair_infix_cons_iff, not_or, ← ih]
      by_cases hpair : c = '-' ∧ rest.head? = some '-'
      · simp [hpair]
      · simp [hpair]

theorem hyphenPairs_separateHyphens (text : Text) : hyphenPairs (separateHyphens text) = 0 := by
  fun_induction separateHyphens text with
  | case1 text hnone => exact hnone
  | case2 text hsome ih => exact ih

/-- The first two hyphens in a row behind the opening of a comment are the ones
that close it. -/
theorem not_infix_commentSafe_append (text : Text) :
    ¬ ['-', '-'] <:+: commentSafe text ++ ['-'] := by
  have hseparated : ¬ ['-', '-'] <:+: separateHyphens text :=
    hyphenPairs_eq_zero_iff.mp (hyphenPairs_separateHyphens text)
  unfold commentSafe
  dsimp only
  split
  · rw [Text.pair_infix_append_iff, Text.pair_infix_append_iff]
    simp [hseparated, Text.pair_infix_cons_iff]
  · next hlast =>
      rw [Text.pair_infix_append_iff]
      simp [hseparated, hlast, Text.pair_infix_cons_iff]

/-- Spaces are all that is put into a text to make it safe. -/
def withoutSpaces (text : Text) : Text := text.filter (· ≠ ' ')

theorem withoutSpaces_append (left right : Text) :
    withoutSpaces (left ++ right) = withoutSpaces left ++ withoutSpaces right :=
  List.filter_append left right

theorem withoutSpaces_eq_self {text : Text} (htext : ' ' ∉ text) : withoutSpaces text = text := by
  rw [withoutSpaces, List.filter_eq_self]
  intro c hc
  have hne : c ≠ ' ' := by
    rintro rfl
    exact htext hc
  simpa using hne

theorem withoutSpaces_splitHyphens (text : Text) :
    withoutSpaces (splitHyphens text) = withoutSpaces text := by
  fun_induction splitHyphens text with
  | case1 => rfl
  | case2 => rfl
  | case3 c d rest hpair ih =>
      obtain ⟨rfl, rfl⟩ := hpair
      simpa [withoutSpaces] using ih
  | case4 c d rest hpair ih =>
      rw [← List.singleton_append, withoutSpaces_append, ih, ← withoutSpaces_append,
        List.singleton_append]

theorem withoutSpaces_separateHyphens (text : Text) :
    withoutSpaces (separateHyphens text) = withoutSpaces text := by
  fun_induction separateHyphens text with
  | case1 text hnone => rfl
  | case2 text hsome ih => rw [ih, withoutSpaces_splitHyphens]

theorem withoutSpaces_commentSafe (text : Text) :
    withoutSpaces (commentSafe text) = withoutSpaces text := by
  unfold commentSafe
  dsimp only
  split
  · have hspace : withoutSpaces [' '] = [] := rfl
    rw [withoutSpaces_append, hspace, List.append_nil, withoutSpaces_separateHyphens]
  · exact withoutSpaces_separateHyphens text

end Xml

end MessageCatalog
