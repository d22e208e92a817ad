import MessageCatalog.Xml.Token
import Mathlib.Tactic.SplitIfs

/-!
# Reading character data back

The writer replaces five characters by their predefined entities.  This file
holds the reader that undoes them.  It accepts no other ampersand, so reading
written text back also says that every ampersand in it begins an entity.
-/

namespace MessageCatalog

namespace Xml

/-- Character data with the five predefined entities read back.  An ampersand
that begins none of them is an error. -/
def unescape? : Text → Option Text
  | [] => some []
  | '&' :: 'l' :: 't' :: ';' :: rest => (unescape? rest).map ('<' :: ·)
  | '&' :: 'g' :: 't' :: ';' :: rest => (unescape? rest).map ('>' :: ·)
  | '&' :: 'a' :: 'm' :: 'p' :: ';' :: rest => (unescape? rest).map ('&' :: ·)
  | '&' :: 'a' :: 'p' :: 'o' :: 's' :: ';' :: rest => (unescape? rest).map ('\'' :: ·)
  | '&' :: 'q' :: 'u' :: 'o' :: 't' :: ';' :: rest => (unescape? rest).map ('"' :: ·)
  | c :: rest => if c = '&' then none else (unescape? rest).map (c :: ·)

theorem unescape?_cons_of_ne {c : Char} (hc : c ≠ '&') (rest : Text) :
    unescape? (c :: rest) = (unescape? rest).map (c :: ·) := by
  rw [unescape?]
  · simp [hc]
  all_goals
    intros
    simp_all

theorem unescape?_escapeChar_append (c : Char) (rest : Text) :
    unescape? (escapeChar c ++ rest) = (unescape? rest).map (c :: ·) := by
  unfold escapeChar
  split_ifs with hlt hgt hamp hapos hquot
  · subst hlt; rfl
  · subst hgt; rfl
  · subst hamp; rfl
  · subst hapos; rfl
  · subst hquot; rfl
  · exact unescape?_cons_of_ne hamp rest

theorem unescape?_escape (text : Text) : unescape? (escape text) = some text := by
  induction text with
  | nil => rfl
  | cons c rest ih =>
      unfold escape at ih ⊢
      rw [Text.escapeWith_cons, unescape?_escapeChar_append, ih]
      rfl

end Xml

end MessageCatalog
