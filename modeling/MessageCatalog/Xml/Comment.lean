import MessageCatalog.Text.Basic

/-!
# Text inside comments

Two hyphens in a row may not stand inside an XML comment, and a hyphen may
not stand at its end.  The text of a comment is made safe in passes: a pass
takes the pairs of hyphens from left to right and puts a space into each;
it leaves fewer pairs than it found, so a last pass finds none.
-/

namespace MessageCatalog

namespace Xml

/-- One pass: a space is put into every pair of hyphens, pairs being taken
from left to right without overlap. -/
def splitHyphens : Text → Text
  | [] => []
  | [c] => [c]
  | c :: d :: rest =>
      if c = '-' ∧ d = '-' then '-' :: ' ' :: '-' :: splitHyphens rest
      else c :: splitHyphens (d :: rest)

/-- The number of places where two hyphens stand next to each other. -/
def hyphenPairs : Text → Nat
  | [] => 0
  | [_] => 0
  | c :: d :: rest => (if c = '-' ∧ d = '-' then 1 else 0) + hyphenPairs (d :: rest)

/-- A pass does not change the first character. -/
theorem head?_splitHyphens (text : Text) : (splitHyphens text).head? = text.head? := by
  fun_cases splitHyphens text <;> simp_all

/-- In front of a text, a hyphen makes one more pair or none, and only the
first character of the text decides which. -/
theorem hyphenPairs_cons (c : Char) (text : Text) :
    hyphenPairs (c :: text) =
      (if c = '-' ∧ text.head? = some '-' then 1 else 0) + hyphenPairs text := by
  cases text <;> simp [hyphenPairs]

theorem hyphenPairs_splitHyphens_le (text : Text) :
    hyphenPairs (splitHyphens text) ≤ hyphenPairs text := by
  fun_induction splitHyphens text with
  | case1 => simp
  | case2 => simp
  | case3 c d rest h ih =>
      obtain ⟨rfl, rfl⟩ := h
      simp only [hyphenPairs_cons, head?_splitHyphens] at *
      simp
      omega
  | case4 c d rest h ih =>
      rw [hyphenPairs_cons c, hyphenPairs_cons c, head?_splitHyphens]
      omega

theorem hyphenPairs_splitHyphens_lt {text : Text} (h : hyphenPairs text ≠ 0) :
    hyphenPairs (splitHyphens text) < hyphenPairs text := by
  fun_induction splitHyphens text with
  | case1 => simp [hyphenPairs] at h
  | case2 => simp [hyphenPairs] at h
  | case3 c d rest hcd ih =>
      obtain ⟨rfl, rfl⟩ := hcd
      have hle := hyphenPairs_splitHyphens_le rest
      simp only [hyphenPairs_cons, head?_splitHyphens] at *
      simp
      omega
  | case4 c d rest hcd ih =>
      rw [hyphenPairs_cons c, hyphenPairs_cons c, head?_splitHyphens]
      rw [hyphenPairs_cons c] at h
      by_cases hrest : hyphenPairs (d :: rest) = 0
      · simp [hcd, hrest] at h
      · have := ih hrest
        omega

/-- Passes are made until no pair is left. -/
def separateHyphens (text : Text) : Text :=
  if hyphenPairs text = 0 then text else separateHyphens (splitHyphens text)
termination_by hyphenPairs text
decreasing_by exact hyphenPairs_splitHyphens_lt ‹_›

/-- The text of a comment, safe between `<!--` and `-->`. -/
def commentSafe (text : Text) : Text :=
  let separated := separateHyphens text
  if separated.getLast? = some '-' then separated ++ [' '] else separated

end Xml

end MessageCatalog
