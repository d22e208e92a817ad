import MessageCatalog.Text.Basic
import Mathlib.Data.List.Infix

/-!
# Readers

A file is read by reading one thing after the other until nothing is left.
Some things run to the first occurrence of a closing mark; what stands in front
of a mark is found again as long as the mark does not occur any earlier, also
not with some of its own characters.
-/

namespace MessageCatalog

namespace Text

/-- What stands before the first occurrence of a mark, and what stands behind
it. -/
def splitAtMark? (mark : Text) : Text → Option (Text × Text)
  | [] => none
  | c :: rest =>
      if mark <+: c :: rest then some ([], (c :: rest).drop mark.length)
      else (splitAtMark? mark rest).map fun parts => (c :: parts.1, parts.2)

theorem splitAtMark?_append {mark before : Text} (hmark : mark ≠ [])
    (hfirst : ¬ mark <:+: before ++ mark.dropLast) (rest : Text) :
    splitAtMark? mark (before ++ mark ++ rest) = some (before, rest) := by
  induction before with
  | nil =>
      obtain ⟨m, marks, rfl⟩ := List.exists_cons_of_ne_nil hmark
      have hhead : m :: marks <+: m :: (marks ++ rest) := ⟨rest, rfl⟩
      rw [List.nil_append, List.cons_append, splitAtMark?, if_pos hhead]
      simp
  | cons c before ih =>
      have htail : ¬ mark <:+: before ++ mark.dropLast := by
        intro hearlier
        exact hfirst (hearlier.trans (List.suffix_cons c _).isInfix)
      have hhead : ¬ mark <+: c :: (before ++ mark ++ rest) := by
        intro hstart
        have hkept : c :: before ++ mark.dropLast <+: c :: (before ++ mark ++ rest) := by
          rw [← List.dropLast_append_getLast hmark, List.dropLast_concat]
          exact ⟨[mark.getLast hmark] ++ rest, by simp⟩
        have hlength : mark.length ≤ (c :: before ++ mark.dropLast).length := by
          simp
          omega
        exact hfirst (List.prefix_of_prefix_length_le hstart hkept hlength).isInfix
      rw [List.cons_append, List.cons_append, splitAtMark?, if_neg hhead, ih htail]
      rfl

variable {α : Type} {stop : Text → Bool} {step : Text → Option (α × Text)}

/-- Reads one thing after the other up to where `stop` says so.  A step that
consumes nothing counts as a failure. -/
def readUntil (stop : Text → Bool) (step : Text → Option (α × Text)) (text : Text) :
    Option (List α × Text) :=
  if stop text = true then some ([], text)
  else
    match step text with
    | none => none
    | some (item, rest) =>
        if rest.length < text.length then
          (readUntil stop step rest).map fun parts => (item :: parts.1, parts.2)
        else none
termination_by text.length

theorem readUntil_of_stop {text : Text} (hstop : stop text = true) :
    readUntil stop step text = some ([], text) := by
  rw [readUntil, if_pos hstop]

theorem readUntil_eq_of_step {text rest : Text} {item : α} (hstop : stop text = false)
    (hstep : step text = some (item, rest)) (hless : rest.length < text.length) :
    readUntil stop step text =
      (readUntil stop step rest).map fun parts => (item :: parts.1, parts.2) := by
  rw [readUntil, if_neg (by simp [hstop]), hstep]
  exact if_pos hless

def readAll (step : Text → Option (α × Text)) (text : Text) : Option (List α) :=
  (readUntil List.isEmpty step text).map Prod.fst

theorem readAll_nil (step : Text → Option (α × Text)) : readAll step [] = some [] := by
  rw [readAll, readUntil_of_stop rfl]
  rfl

theorem readAll_eq_of_step {text rest : Text} {item : α}
    (hstep : step text = some (item, rest)) (hless : rest.length < text.length) :
    readAll step text = (readAll step rest).map (item :: ·) := by
  have hstop : text.isEmpty = false := by
    cases text with
    | nil => simp at hless
    | cons c text => rfl
  unfold readAll
  rw [readUntil_eq_of_step hstop hstep hless, Option.map_map, Option.map_map]
  rfl

theorem exists_of_readAll_eq_some {text : Text} {items : List α} (htext : text ≠ [])
    (hread : readAll step text = some items) :
    ∃ item rest others, step text = some (item, rest) ∧ readAll step rest = some others ∧
      items = item :: others := by
  unfold readAll at hread
  rw [readUntil, if_neg (by simpa using htext)] at hread
  cases hstep : step text with
  | none => simp [hstep] at hread
  | some parts =>
      obtain ⟨item, rest⟩ := parts
      rw [hstep] at hread
      dsimp only at hread
      split at hread
      · rw [Option.map_map, Option.map_eq_some_iff] at hread
        obtain ⟨⟨others, left⟩, hrest, rfl⟩ := hread
        exact ⟨item, rest, others, rfl, by rw [readAll, hrest]; rfl, rfl⟩
      · simp at hread

end Text

end MessageCatalog
