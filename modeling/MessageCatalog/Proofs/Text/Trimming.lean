import MessageCatalog.Text.Blank
import Mathlib.Data.List.DropRight

/-!
# Trimming

Dropping a class of characters from both ends leaves a text that neither
starts nor ends with one of them, and it undoes any addition of such
characters around a text of that kind.
-/

namespace MessageCatalog

namespace Text

variable {drop : Char → Bool}

theorem dropWhile_eq_self {text : Text} (hhead : ∀ c ∈ text.head?, drop c = false) :
    text.dropWhile drop = text := by
  cases text with
  | nil => rfl
  | cons c rest =>
      have hc : drop c = false := hhead c rfl
      exact List.dropWhile_cons_of_neg (by simp [hc])

theorem head?_dropWhile_eq_false (text : Text) :
    ∀ c ∈ (text.dropWhile drop).head?, drop c = false := by
  intro c hc
  have hnot := List.head?_dropWhile_not drop text
  rw [Option.mem_def.mp hc] at hnot
  simpa using hnot

theorem dropTrailing_append_of_all (text : Text) {right : Text}
    (hright : ∀ c ∈ right, drop c = true) :
    dropTrailing drop (text ++ right) = dropTrailing drop text := by
  have hreverse : ∀ c ∈ right.reverse, drop c = true := by
    intro c hc
    exact hright c (List.mem_reverse.mp hc)
  unfold dropTrailing
  rw [List.reverse_append, List.dropWhile_append_of_pos hreverse]

theorem dropTrailing_eq_self {text : Text}
    (hlast : ∀ c ∈ text.getLast?, drop c = false) : dropTrailing drop text = text := by
  have hhead : ∀ c ∈ text.reverse.head?, drop c = false := by
    rwa [List.head?_reverse]
  unfold dropTrailing
  rw [dropWhile_eq_self hhead, List.reverse_reverse]

theorem getLast?_dropTrailing_eq_false (text : Text) :
    ∀ c ∈ (dropTrailing drop text).getLast?, drop c = false := by
  unfold dropTrailing
  rw [List.getLast?_reverse]
  exact head?_dropWhile_eq_false text.reverse

/-- Dropping from the end leaves the first character alone unless nothing is
left. -/
theorem head?_dropTrailing {text : Text} (hhead : ∀ c ∈ text.head?, drop c = false) :
    ∀ c ∈ (dropTrailing drop text).head?, drop c = false := by
  intro c hc
  obtain ⟨rest, hrest⟩ : dropTrailing drop text <+: text :=
    List.rdropWhile_prefix drop text
  apply hhead c
  rw [← hrest, List.head?_append, Option.mem_def.mp hc]
  rfl

theorem head?_dropAround_eq_false (text : Text) :
    ∀ c ∈ (dropAround drop text).head?, drop c = false :=
  head?_dropTrailing (head?_dropWhile_eq_false text)

theorem getLast?_dropAround_eq_false (text : Text) :
    ∀ c ∈ (dropAround drop text).getLast?, drop c = false :=
  getLast?_dropTrailing_eq_false (text.dropWhile drop)

/-- What is added around a text comes off again, and no more. -/
theorem dropAround_append {left text right : Text}
    (hleft : ∀ c ∈ left, drop c = true) (hright : ∀ c ∈ right, drop c = true)
    (hhead : ∀ c ∈ text.head?, drop c = false)
    (hlast : ∀ c ∈ text.getLast?, drop c = false) :
    dropAround drop (left ++ text ++ right) = text := by
  unfold dropAround
  rw [List.append_assoc, List.dropWhile_append_of_pos hleft]
  cases text with
  | nil =>
      have hnone : right.dropWhile drop = [] := List.dropWhile_eq_nil_iff.mpr hright
      rw [List.nil_append, hnone]
      rfl
  | cons c rest =>
      have hkept : ∀ d ∈ (c :: rest ++ right).head?, drop d = false := hhead
      rw [dropWhile_eq_self hkept, dropTrailing_append_of_all _ hright,
        dropTrailing_eq_self hlast]

theorem dropAround_eq_self_iff (text : Text) :
    dropAround drop text = text ↔
      (∀ c ∈ text.head?, drop c = false) ∧ ∀ c ∈ text.getLast?, drop c = false := by
  constructor
  · intro heq
    rw [← heq]
    exact ⟨head?_dropAround_eq_false text, getLast?_dropAround_eq_false text⟩
  · rintro ⟨hhead, hlast⟩
    have hnone : ∀ c ∈ ([] : Text), drop c = true := by simp
    simpa using dropAround_append hnone hnone hhead hlast

@[simp] theorem trim_trim (text : Text) : trim (trim text) = trim text :=
  (dropAround_eq_self_iff (trim text)).mpr
    ⟨head?_dropAround_eq_false text, getLast?_dropAround_eq_false text⟩

theorem trim_eq_self_iff (text : Text) :
    trim text = text ↔
      (∀ c ∈ text.head?, isBlank c = false) ∧ ∀ c ∈ text.getLast?, isBlank c = false :=
  dropAround_eq_self_iff text

/-- Blanks around a trimmed text do not matter. -/
theorem trim_append {left text right : Text}
    (hleft : ∀ c ∈ left, isBlank c = true) (hright : ∀ c ∈ right, isBlank c = true)
    (htext : trim text = text) : trim (left ++ text ++ right) = text := by
  obtain ⟨hhead, hlast⟩ := (trim_eq_self_iff text).mp htext
  exact dropAround_append hleft hright hhead hlast

theorem trim_append_left {left : Text} (hleft : ∀ c ∈ left, isBlank c = true) (text : Text) :
    trim (left ++ text) = trim text := by
  unfold trim dropAround
  rw [List.dropWhile_append_of_pos hleft]

/-- Blanks behind a text do not matter, not even if nothing else is there. -/
theorem trim_append_right (text : Text) {right : Text} (hright : ∀ c ∈ right, isBlank c = true) :
    trim (text ++ right) = trim text := by
  have hleading : ∀ c ∈ leadingBlanks text, isBlank c = true := by
    intro c hc
    exact List.mem_takeWhile_imp hc
  have htrailing : ∀ c ∈ trailingBlanks text ++ right, isBlank c = true := by
    intro c hc
    rcases List.mem_append.mp hc with hc | hc
    · exact List.mem_takeWhile_imp (List.mem_reverse.mp hc)
    · exact hright c hc
  have hsplit := leadingBlanks_append_trim_append_trailingBlanks text
  calc
    trim (text ++ right) =
        trim (leadingBlanks text ++ trim text ++ (trailingBlanks text ++ right)) := by
      rw [← List.append_assoc, hsplit]
    _ = trim text := trim_append hleading htrailing (trim_trim text)

theorem leadingBlanks_append {left text : Text}
    (hleft : ∀ c ∈ left, isBlank c = true) (hhead : ∀ c ∈ text.head?, isBlank c = false) :
    leadingBlanks (left ++ text) = left := by
  unfold leadingBlanks
  rw [List.takeWhile_append_of_pos hleft]
  cases text with
  | nil => simp
  | cons c rest =>
      have hc : isBlank c = false := hhead c rfl
      rw [List.takeWhile_cons_of_neg (by simp [hc]), List.append_nil]

/-- A text that begins with no blank begins as before when it is trimmed. -/
theorem head?_trim_of_head? {text : Text} (hhead : ∀ c ∈ text.head?, isBlank c = false) :
    ∀ c ∈ (trim text).head?, c ∈ text.head? := by
  intro c hc
  have hleading : leadingBlanks text = [] := by
    cases text with
    | nil => rfl
    | cons d rest =>
        have hd : isBlank d = false := hhead d rfl
        exact List.takeWhile_cons_of_neg (by simp [hd])
  have hsplit := leadingBlanks_append_trim_append_trailingBlanks text
  rw [hleading, List.nil_append] at hsplit
  rw [← hsplit, List.head?_append, Option.mem_def.mp hc]
  rfl

end Text

end MessageCatalog
