import MessageCatalog.Text.Basic

/-!
# Sets of language codes

A catalog knows every language that one of its values is written in.  The
codes are kept in increasing order of their characters and without
repetition, so two sets with the same members are equal.
-/

namespace MessageCatalog

structure LanguageSet where
  codes : List Text
  sorted : codes.Pairwise (· < ·)
  deriving DecidableEq

namespace LanguageSet

def empty : LanguageSet := ⟨[], List.Pairwise.nil⟩

/-- Inserts a code at its place, unless it is already there. -/
def insertCode (code : Text) : List Text → List Text
  | [] => [code]
  | head :: rest =>
      if code < head then code :: head :: rest
      else if code = head then head :: rest
      else head :: insertCode code rest

theorem mem_insertCode {code other : Text} {codes : List Text} :
    other ∈ insertCode code codes ↔ other = code ∨ other ∈ codes := by
  induction codes with
  | nil => simp [insertCode]
  | cons head rest ih =>
      simp only [insertCode]
      split
      · simp
      · split
        · next heq => subst heq; simp
        · simp only [List.mem_cons, ih]
          exact or_left_comm

theorem pairwise_insertCode (code : Text) {codes : List Text}
    (h : codes.Pairwise (· < ·)) : (insertCode code codes).Pairwise (· < ·) := by
  induction codes with
  | nil => simp [insertCode]
  | cons head rest ih =>
      obtain ⟨hhead, hrest⟩ := List.pairwise_cons.1 h
      simp only [insertCode]
      split
      · next hlt =>
          refine List.pairwise_cons.2 ⟨?_, h⟩
          intro other hother
          rcases List.mem_cons.1 hother with rfl | hmem
          · exact hlt
          · exact List.lt_trans hlt (hhead other hmem)
      · next hnlt =>
          split
          · exact h
          · next hne =>
              refine List.pairwise_cons.2 ⟨?_, ih hrest⟩
              intro other hother
              rcases mem_insertCode.1 hother with rfl | hmem
              · exact List.not_le.1 fun hle =>
                  hne (List.le_antisymm hle (List.not_lt.1 hnlt))
              · exact hhead other hmem

def insert (set : LanguageSet) (code : Text) : LanguageSet :=
  ⟨insertCode code set.codes, pairwise_insertCode code set.sorted⟩

def ofList (codes : List Text) : LanguageSet := codes.foldl insert empty

def contains (set : LanguageSet) (code : Text) : Bool := code ∈ set.codes

@[simp] theorem codes_empty : empty.codes = [] := rfl

@[simp] theorem mem_codes_insert {set : LanguageSet} {code other : Text} :
    other ∈ (set.insert code).codes ↔ other = code ∨ other ∈ set.codes :=
  mem_insertCode

end LanguageSet

end MessageCatalog
