import MessageCatalog.Proofs.Markdown.Tags
import MessageCatalog.Proofs.Text.Splitting

/-!
# The tags of a text

A tag runs from an angle bracket to the next closing one.  The tags of
neighbouring texts are listed one after the other if the first text is whole,
and a change of texts that leaves brackets alone changes each tag by itself.
-/

namespace MessageCatalog

namespace Markdown

namespace Html

/-- The tags of a text, in order. -/
def tags : Text → List Text
  | [] => []
  | c :: rest =>
      if c = '<' then
        match Text.splitFirst? '>' rest with
        | some (name, _) => tag name :: tags rest
        | none => tags rest
      else tags rest

@[simp] theorem tags_nil : tags [] = [] := rfl

theorem tags_cons_of_ne {c : Char} (hc : c ≠ '<') (rest : Text) : tags (c :: rest) = tags rest := by
  rw [tags, if_neg hc]

theorem tags_of_not_mem {text : Text} (htext : '<' ∉ text) : tags text = [] := by
  induction text with
  | nil => rfl
  | cons c text ih =>
      rw [List.mem_cons, not_or] at htext
      rw [tags_cons_of_ne (Ne.symm htext.1), ih htext.2]

theorem tags_open_append {name : Text} (hname : '>' ∉ name) (rest : Text) :
    tags ('<' :: (name ++ '>' :: rest)) = tag name :: tags (name ++ '>' :: rest) := by
  rw [tags, if_pos rfl, Text.splitFirst?_append hname]

theorem tags_open_of_not_mem {rest : Text} (hrest : '>' ∉ rest) :
    tags ('<' :: rest) = tags rest := by
  rw [tags, if_pos rfl, Text.splitFirst?_eq_none_iff.mpr hrest]

/-- A text begins with another character, or with a tag, or with a bracket that
is never closed. -/
theorem tags_induction {motive : Text → Prop} (nil : motive [])
    (other : ∀ c rest, c ≠ '<' → motive rest → motive (c :: rest))
    (closed : ∀ name rest, '>' ∉ name → motive (name ++ '>' :: rest) →
      motive ('<' :: (name ++ '>' :: rest)))
    (unclosed : ∀ rest, '>' ∉ rest → motive rest → motive ('<' :: rest)) (text : Text) :
    motive text := by
  induction text with
  | nil => exact nil
  | cons c rest ih =>
      by_cases hc : c = '<'
      · subst hc
        by_cases hrest : '>' ∈ rest
        · obtain ⟨name, behind, rfl, hname⟩ := List.eq_append_cons_of_mem hrest
          exact closed name behind hname ih
        · exact unclosed rest hrest ih
      · exact other c rest hc ih

theorem tags_append {left : Text} (hleft : Whole left) (right : Text) :
    tags (left ++ right) = tags left ++ tags right := by
  induction left using tags_induction with
  | nil => rfl
  | other c rest hc ih => rw [List.cons_append, tags_cons_of_ne hc, tags_cons_of_ne hc, ih hleft.2]
  | closed name rest hname ih =>
      have hsame := ih hleft.2
      rw [List.append_assoc, List.cons_append] at hsame
      rw [List.cons_append, List.append_assoc, List.cons_append, tags_open_append hname,
        tags_open_append hname, hsame, List.cons_append]
  | unclosed rest hrest ih => exact absurd (hleft.1 rfl) hrest

theorem whole_right_of_append {left right : Text} (hwhole : Whole (left ++ right)) :
    Whole right := by
  induction left with
  | nil => exact hwhole
  | cons c left ih => exact ih hwhole.2

theorem tags_tag {name : Text} (hopening : '<' ∉ name) (hclosing : '>' ∉ name) :
    tags (tag name) = [tag name] := by
  have hrest : '<' ∉ name ++ ['>'] := by simp [hopening]
  have hopen : tag name = '<' :: (name ++ '>' :: []) := rfl
  rw [hopen, tags_open_append hclosing, tags_of_not_mem hrest, ← hopen]

end Html

end Markdown

end MessageCatalog
