import MessageCatalog.Proofs.Xml.Comment
import Mathlib.Order.Bounds.Defs

/-!
# The least change that makes a comment safe

Passes over a text come to an end: the second one leaves no two hyphens in a
row.  What they leave can be said without passes.  A space is put between any
two hyphens that stand side by side, and one behind a hyphen at the end; no
safe text that holds the characters of the comment in their order is shorter.
-/

namespace MessageCatalog

namespace Xml

/-- While two hyphens stand in a row, one more pass is made; `count` passes are
made in all, and `separated` is what they leave. -/
inductive Passes : Text → Nat → Text → Prop
  | done {text : Text} (hnone : ¬ ['-', '-'] <:+: text) : Passes text 0 text
  | pass {text separated : Text} {count : Nat} (hsome : ['-', '-'] <:+: text)
      (hrest : Passes (splitHyphens text) count separated) : Passes text (count + 1) separated

/-- A text that may stand in a comment, right in front of the hyphens that
close it. -/
structure IsSafe (text : Text) : Prop where
  no_pair : ¬ ['-', '-'] <:+: text
  no_last : text.getLast? ≠ some '-'

/-- A character of a text with spaces put in: one that the text had, or one of
these spaces. -/
inductive SpacedChar
  | own (c : Char)
  | inserted

namespace SpacedChar

def char : SpacedChar → Char
  | own c => c
  | inserted => ' '

def own? : SpacedChar → Option Char
  | own c => some c
  | inserted => none

end SpacedChar

def withInserted (chars : List SpacedChar) : Text := chars.map SpacedChar.char

def withoutInserted (chars : List SpacedChar) : Text := chars.filterMap SpacedChar.own?

/-- A space is put between any two hyphens that stand side by side. -/
def spaceHyphens : Text → List SpacedChar
  | [] => []
  | c :: rest =>
      if c = '-' ∧ rest.head? = some '-' then .own c :: .inserted :: spaceHyphens rest
      else .own c :: spaceHyphens rest

/-- A space is also put behind a hyphen at the end. -/
def spaceComment (text : Text) : List SpacedChar :=
  spaceHyphens text ++ if text.getLast? = some '-' then [.inserted] else []

theorem spaceHyphens_cons (c : Char) (rest : Text) :
    spaceHyphens (c :: rest) =
      .own c :: ((if c = '-' ∧ rest.head? = some '-' then [.inserted] else []) ++
        spaceHyphens rest) := by
  rw [spaceHyphens]
  split <;> rfl

theorem withInserted_append (left right : List SpacedChar) :
    withInserted (left ++ right) = withInserted left ++ withInserted right :=
  List.map_append

theorem withInserted_spaceHyphens_cons (c : Char) (rest : Text) :
    withInserted (spaceHyphens (c :: rest)) =
      c :: ((if c = '-' ∧ rest.head? = some '-' then [' '] else []) ++
        withInserted (spaceHyphens rest)) := by
  rw [spaceHyphens]
  split <;> rfl

theorem withoutInserted_append (left right : List SpacedChar) :
    withoutInserted (left ++ right) = withoutInserted left ++ withoutInserted right :=
  List.filterMap_append

theorem withoutInserted_sublist (chars : List SpacedChar) :
    (withoutInserted chars).Sublist (withInserted chars) := by
  induction chars with
  | nil => exact List.Sublist.slnil
  | cons d chars ih =>
      cases d with
      | own c => exact ih.cons_cons c
      | inserted => exact ih.cons ' '

theorem withoutInserted_spaceHyphens (text : Text) :
    withoutInserted (spaceHyphens text) = text := by
  induction text with
  | nil => rfl
  | cons c rest ih =>
      have hown : withoutInserted (.own c :: spaceHyphens rest) = c :: rest :=
        congrArg (c :: ·) ih
      rw [spaceHyphens]
      split
      · exact hown
      · exact hown

theorem withoutInserted_spaceComment (text : Text) :
    withoutInserted (spaceComment text) = text := by
  rw [spaceComment, withoutInserted_append, withoutInserted_spaceHyphens]
  split <;> exact List.append_nil text

/-! ## One pass -/

theorem withInserted_spaceHyphens_eq_self {text : Text} (hnone : ¬ ['-', '-'] <:+: text) :
    withInserted (spaceHyphens text) = text := by
  induction text with
  | nil => rfl
  | cons c rest ih =>
      rw [Text.pair_infix_cons_iff, not_or] at hnone
      rw [withInserted_spaceHyphens_cons, if_neg hnone.1, List.nil_append, ih hnone.2]

/-- A pass puts in some of the spaces, and the others are still to be put in. -/
theorem withInserted_spaceHyphens_splitHyphens (text : Text) :
    withInserted (spaceHyphens (splitHyphens text)) = withInserted (spaceHyphens text) := by
  fun_induction splitHyphens text with
  | case1 => rfl
  | case2 => rfl
  | case3 c d rest hpair ih =>
      obtain ⟨rfl, rfl⟩ := hpair
      simp [withInserted_spaceHyphens_cons, head?_splitHyphens, ih]
  | case4 c d rest hpair ih =>
      rw [withInserted_spaceHyphens_cons, withInserted_spaceHyphens_cons, head?_splitHyphens, ih]

/-! ## All passes -/

theorem Passes.eq_withInserted {text separated : Text} {count : Nat}
    (hpasses : Passes text count separated) :
    separated = withInserted (spaceHyphens text) := by
  induction hpasses with
  | done hnone => exact (withInserted_spaceHyphens_eq_self hnone).symm
  | pass _ _ ih => rw [ih, withInserted_spaceHyphens_splitHyphens]

theorem exists_passes (text : Text) : ∃ count, Passes text count (separateHyphens text) := by
  fun_induction separateHyphens text with
  | case1 text hnone => exact ⟨0, .done (hyphenPairs_eq_zero_iff.mp hnone)⟩
  | case2 text hsome ih =>
      obtain ⟨count, hrest⟩ := ih
      exact ⟨count + 1, .pass (not_not.mp (mt hyphenPairs_eq_zero_iff.mpr hsome)) hrest⟩

theorem separateHyphens_eq (text : Text) :
    separateHyphens text = withInserted (spaceHyphens text) := by
  obtain ⟨count, hpasses⟩ := exists_passes text
  exact hpasses.eq_withInserted

theorem not_infix_withInserted_spaceHyphens (text : Text) :
    ¬ ['-', '-'] <:+: withInserted (spaceHyphens text) := by
  rw [← separateHyphens_eq]
  exact hyphenPairs_eq_zero_iff.mp (hyphenPairs_separateHyphens text)

/-- A pass leaves no two hyphens at the front. -/
theorem not_prefix_splitHyphens (text : Text) : ¬ ['-', '-'] <+: splitHyphens text := by
  fun_cases splitHyphens text with
  | case1 => simp
  | case2 => simp
  | case3 c d rest hpair => simp
  | case4 c d rest hpair =>
      rw [Text.pair_prefix_cons_iff, head?_splitHyphens]
      simpa using hpair

/-- In front of a text that does not begin with two hyphens, a character does
not change which pairs a pass takes in that text. -/
theorem splitHyphens_cons {c : Char} {text : Text} (hfront : ¬ ['-', '-'] <+: text) :
    splitHyphens (c :: text) =
      c :: ((if c = '-' ∧ text.head? = some '-' then [' '] else []) ++ splitHyphens text) := by
  match text, hfront with
  | [], _ => simp [splitHyphens]
  | [d], _ => by_cases hpair : c = '-' ∧ d = '-' <;> simp [splitHyphens, hpair]
  | d :: e :: rest, hfront =>
      have hnext : ¬ (d = '-' ∧ e = '-') := by
        rintro ⟨rfl, rfl⟩
        exact hfront ⟨rest, rfl⟩
      rw [splitHyphens, splitHyphens, if_neg hnext]
      by_cases hpair : c = '-' ∧ d = '-' <;> simp [hpair]

/-- The second pass puts in all the spaces that the first one left out. -/
theorem splitHyphens_splitHyphens (text : Text) :
    splitHyphens (splitHyphens text) = withInserted (spaceHyphens text) := by
  fun_induction splitHyphens text with
  | case1 => rfl
  | case2 c => rw [splitHyphens_cons (by simp), withInserted_spaceHyphens_cons]; rfl
  | case3 c d rest hpair ih =>
      obtain ⟨rfl, rfl⟩ := hpair
      -- The second hyphen of the pair may have found a new neighbour in the rest.
      have hsecond : splitHyphens ('-' :: splitHyphens rest) =
          withInserted (spaceHyphens ('-' :: rest)) := by
        rw [splitHyphens_cons (not_prefix_splitHyphens rest), head?_splitHyphens, ih,
          withInserted_spaceHyphens_cons]
      calc splitHyphens ('-' :: ' ' :: '-' :: splitHyphens rest)
          _ = '-' :: ' ' :: splitHyphens ('-' :: splitHyphens rest) := by simp [splitHyphens]
          _ = '-' :: ' ' :: withInserted (spaceHyphens ('-' :: rest)) := by rw [hsecond]
          _ = withInserted (spaceHyphens ('-' :: '-' :: rest)) := rfl
  | case4 c d rest hpair ih =>
      rw [splitHyphens_cons (not_prefix_splitHyphens _), head?_splitHyphens, ih,
        withInserted_spaceHyphens_cons c]

theorem Passes.count_le_two {text separated : Text} {count : Nat}
    (hpasses : Passes text count separated) : count ≤ 2 := by
  match hpasses with
  | .done _ => omega
  | .pass _ (.done _) => omega
  | .pass _ (.pass _ (.done _)) => omega
  | .pass _ (.pass _ (.pass hthird _)) =>
      -- A third pass would have to find a pair in what the second one left.
      rw [splitHyphens_splitHyphens] at hthird
      exact absurd hthird (not_infix_withInserted_spaceHyphens text)

/-! ## The whole comment -/

theorem getLast?_withInserted_spaceHyphens (text : Text) :
    (withInserted (spaceHyphens text)).getLast? = text.getLast? := by
  induction text with
  | nil => rfl
  | cons c rest ih =>
      rw [withInserted_spaceHyphens_cons]
      cases rest with
      | nil => simp [spaceHyphens, withInserted]
      | cons d rest => simp [List.getLast?_cons, List.getLast?_append, ih]

theorem commentSafe_eq_append (text : Text) :
    commentSafe text = separateHyphens text ++
      if (separateHyphens text).getLast? = some '-' then [' '] else [] := by
  rw [commentSafe]
  split
  · rfl
  · exact (List.append_nil _).symm

theorem commentSafe_eq (text : Text) : commentSafe text = withInserted (spaceComment text) := by
  rw [commentSafe_eq_append, separateHyphens_eq, getLast?_withInserted_spaceHyphens, spaceComment,
    withInserted_append]
  split <;> rfl

theorem isSafe_iff {text : Text} : IsSafe text ↔ ¬ ['-', '-'] <:+: text ++ ['-'] := by
  rw [Text.pair_infix_append_iff]
  constructor
  · intro hsafe
    simp [hsafe.no_pair, hsafe.no_last, Text.pair_infix_cons_iff]
  · intro hpair
    rw [not_or, not_or] at hpair
    exact ⟨hpair.1, fun hlast => hpair.2.2 ⟨hlast, rfl⟩⟩

theorem isSafe_commentSafe (text : Text) : IsSafe (commentSafe text) :=
  isSafe_iff.mpr (not_infix_commentSafe_append text)

theorem commentSafe_eq_self_iff {text : Text} : commentSafe text = text ↔ IsSafe text := by
  constructor
  · intro heq
    rw [← heq]
    exact isSafe_commentSafe text
  · intro hsafe
    rw [commentSafe_eq, spaceComment, if_neg hsafe.no_last, List.append_nil,
      withInserted_spaceHyphens_eq_self hsafe.no_pair]

/-! ## No shorter text is safe -/

/-- A hyphen at the end is treated as if one of the closing hyphens were its
neighbour in the text. -/
theorem spaceHyphens_append_hyphen (text : Text) :
    spaceHyphens (text ++ ['-']) = spaceComment text ++ [.own '-'] := by
  induction text with
  | nil => simp [spaceHyphens, spaceComment]
  | cons c rest ih =>
      rw [List.cons_append, spaceHyphens_cons, ih, spaceComment, spaceComment, spaceHyphens_cons]
      cases rest with
      | nil => by_cases hc : c = '-' <;> simp [spaceHyphens, hc]
      | cons d rest => simp

/-- Where a text with hyphens in a row is a subsequence of one without, something
stands between the hyphens.  The induction also counts what stands in front of
the first hyphen, since it may be all that separates it from the one before. -/
theorem length_spaceHyphens_le {text safe : Text} (hsub : text.Sublist safe)
    (hnone : ¬ ['-', '-'] <:+: safe) :
    (spaceHyphens text).length +
      (if text.head? = some '-' ∧ safe.head? ≠ some '-' then 1 else 0) ≤ safe.length := by
  induction hsub with
  | slnil => simp [spaceHyphens]
  | @cons text safe d hsub ih =>
      rw [Text.pair_infix_cons_iff, not_or] at hnone
      have hrest := ih hnone.2
      rw [List.length_cons]
      split <;> omega
  | @cons_cons text safe c hsub ih =>
      rw [Text.pair_infix_cons_iff, not_or] at hnone
      have hrest := ih hnone.2
      have hfront : ¬ ((c :: text).head? = some '-' ∧ (c :: safe).head? ≠ some '-') :=
        fun hhead => hhead.2 hhead.1
      rw [if_neg hfront, spaceHyphens_cons, List.length_cons, List.length_cons, List.length_append]
      by_cases hpair : c = '-' ∧ text.head? = some '-'
      · have hnext : safe.head? ≠ some '-' := fun hnext => hnone.1 ⟨hpair.1, hnext⟩
        rw [if_pos ⟨hpair.2, hnext⟩] at hrest
        rw [if_pos hpair, List.length_singleton]
        omega
      · rw [if_neg hpair, List.length_nil]
        omega

theorem length_commentSafe_le {text safe : Text} (hsub : text.Sublist safe) (hsafe : IsSafe safe) :
    (commentSafe text).length ≤ safe.length := by
  have hclosed := length_spaceHyphens_le (hsub.append_right ['-']) (isSafe_iff.mp hsafe)
  rw [spaceHyphens_append_hyphen, List.length_append, List.length_append,
    List.length_singleton, List.length_singleton] at hclosed
  rw [commentSafe_eq, withInserted, List.length_map]
  omega

theorem sublist_commentSafe (text : Text) : text.Sublist (commentSafe text) := by
  have hsub := withoutInserted_sublist (spaceComment text)
  rwa [withoutInserted_spaceComment, ← commentSafe_eq] at hsub

/-- Passes are made over a text until no two hyphens stand in a row, at most
two of them.  The safe text has one space put in between any two adjacent hyphens
and one behind a hyphen at the end; without these spaces it is the text again.
It is safe, is not changed when it is made safe again, and is the text itself
exactly if that was safe.  No safe text that holds the characters of the text in
their order is shorter. -/
theorem commentSafe_leastChange (text : Text) :
    (∃ count separated, Passes text count separated ∧ count ≤ 2 ∧
      commentSafe text =
        separated ++ if separated.getLast? = some '-' then [' '] else []) ∧
    (commentSafe text = withInserted (spaceComment text) ∧
      withoutInserted (spaceComment text) = text) ∧
    (¬ ['-', '-'] <:+: commentSafe text ∧ (commentSafe text).getLast? ≠ some '-') ∧
    commentSafe (commentSafe text) = commentSafe text ∧
    (commentSafe text = text ↔ ¬ ['-', '-'] <:+: text ∧ text.getLast? ≠ some '-') ∧
    IsLeast {length | ∃ safe : Text, text.Sublist safe ∧ IsSafe safe ∧ safe.length = length}
      (commentSafe text).length := by
  have hsafe := isSafe_commentSafe text
  refine ⟨?_, ⟨commentSafe_eq text, withoutInserted_spaceComment text⟩,
    ⟨hsafe.no_pair, hsafe.no_last⟩, commentSafe_eq_self_iff.mpr hsafe, ?_, ?_⟩
  · obtain ⟨count, hpasses⟩ := exists_passes text
    exact ⟨count, separateHyphens text, hpasses, hpasses.count_le_two, commentSafe_eq_append text⟩
  · exact commentSafe_eq_self_iff.trans ⟨fun h => ⟨h.no_pair, h.no_last⟩, fun h => ⟨h.1, h.2⟩⟩
  · constructor
    · exact ⟨commentSafe text, sublist_commentSafe text, hsafe, rfl⟩
    · rintro length ⟨safe, hsub, hother, rfl⟩
      exact length_commentSafe_le hsub hother

example : commentSafe "a --- b-".toList = "a - - - b- ".toList := by cbv

end Xml

end MessageCatalog
