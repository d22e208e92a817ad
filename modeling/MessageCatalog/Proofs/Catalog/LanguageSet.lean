import MessageCatalog.Catalog.LanguageSet
import Mathlib.Data.List.Induction
import Mathlib.Data.List.Sort
import Mathlib.Tactic.Tauto

/-!
# Sets of language codes by their members

The codes of a set are sorted, and so a set is determined by its members.
Whatever is proved equal about sets of languages is proved by membership.
-/

namespace MessageCatalog

namespace LanguageSet

theorem ext_codes {left right : LanguageSet}
    (hcodes : ∀ code, code ∈ left.codes ↔ code ∈ right.codes) : left = right := by
  obtain ⟨codes, hsorted⟩ := left
  obtain ⟨others, hothers⟩ := right
  have heq : codes = others := List.Pairwise.eq_of_mem_iff hsorted hothers hcodes
  subst heq
  rfl

theorem insert_comm (set : LanguageSet) (first second : Text) :
    (set.insert first).insert second = (set.insert second).insert first := by
  apply ext_codes
  intro code
  simp only [mem_codes_insert]
  exact or_left_comm

/-! ## Sets of lists -/

theorem ofList_concat (codes : List Text) (code : Text) :
    ofList (codes ++ [code]) = (ofList codes).insert code := by
  simp [ofList]

theorem mem_codes_ofList_iff (codes : List Text) (code : Text) :
    code ∈ (ofList codes).codes ↔ code ∈ codes := by
  induction codes using List.reverseRecOn with
  | nil => exact Iff.rfl
  | append_singleton codes last ih =>
      rw [ofList_concat, mem_codes_insert, ih, List.mem_append, List.mem_singleton, or_comm]

@[simp] theorem ofList_codes (set : LanguageSet) : ofList set.codes = set :=
  ext_codes (mem_codes_ofList_iff set.codes)

/-! ## Unions -/

def union (left right : LanguageSet) : LanguageSet := right.codes.foldl insert left

@[simp] theorem mem_codes_union {left right : LanguageSet} {code : Text} :
    code ∈ (left.union right).codes ↔ code ∈ left.codes ∨ code ∈ right.codes := by
  have hfoldl : ∀ (codes : List Text) (set : LanguageSet),
      code ∈ (codes.foldl insert set).codes ↔ code ∈ set.codes ∨ code ∈ codes := by
    intro codes
    induction codes with
    | nil => simp
    | cons other codes ih =>
        intro set
        rw [List.foldl_cons, ih, mem_codes_insert, List.mem_cons]
        tauto
  exact hfoldl right.codes left

@[simp] theorem union_empty (set : LanguageSet) : set.union .empty = set := rfl

theorem union_insert (left right : LanguageSet) (code : Text) :
    left.union (right.insert code) = (left.union right).insert code := by
  apply ext_codes
  intro other
  simp only [mem_codes_union, mem_codes_insert]
  tauto

end LanguageSet

end MessageCatalog
