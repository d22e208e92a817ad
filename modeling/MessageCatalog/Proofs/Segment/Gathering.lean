import MessageCatalog.Segment.Reading
import Mathlib.Data.List.Chain

/-!
# Gathered segments

Reading a raw value gathers its literal characters as far as they go: no text
is empty, and two texts are never neighbours.  A list of that kind is
determined by its characters and placeholders alone, and gathering them gives
it back.  Any other list can be gathered too: its neighbouring texts are joined
and its empty ones dropped, while its placeholders stay as they are.
-/

namespace MessageCatalog

namespace Segment

def isText : Segment → Bool
  | .text _ => true
  | .placeholder _ => false

/-- No text is empty, and no two texts are neighbours. -/
structure Gathered (segments : List Segment) : Prop where
  text_ne_nil : ∀ t, Segment.text t ∈ segments → t ≠ []
  separated : segments.IsChain fun left right => left.isText = true → right.isText = false

theorem gathered_nil : Gathered [] where
  text_ne_nil := by simp
  separated := List.IsChain.nil

theorem gathered_text_cons_iff (t : Text) (rest : List Segment) :
    Gathered (.text t :: rest) ↔
      t ≠ [] ∧ (∀ next ∈ rest.head?, next.isText = false) ∧ Gathered rest := by
  constructor
  · rintro ⟨hnil, hchain⟩
    rw [List.isChain_cons] at hchain
    refine ⟨hnil t (by simp), fun next hnext => hchain.1 next hnext rfl, ?_, hchain.2⟩
    exact fun u hu => hnil u (List.mem_cons_of_mem _ hu)
  · rintro ⟨ht, hnext, hrest⟩
    constructor
    · intro u hu
      rcases List.mem_cons.mp hu with heq | hu
      · exact (Segment.text.inj heq) ▸ ht
      · exact hrest.text_ne_nil u hu
    · exact List.isChain_cons.mpr ⟨fun next hmem _ => hnext next hmem, hrest.separated⟩

theorem gathered_placeholder_cons_iff (p : Placeholder) (rest : List Segment) :
    Gathered (.placeholder p :: rest) ↔ Gathered rest := by
  constructor
  · rintro ⟨hnil, hchain⟩
    exact ⟨fun u hu => hnil u (List.mem_cons_of_mem _ hu), (List.isChain_cons.mp hchain).2⟩
  · intro hrest
    constructor
    · intro u hu
      exact hrest.text_ne_nil u (by simpa using hu)
    · exact List.isChain_cons.mpr ⟨fun next _ htext => by simp [isText] at htext, hrest.separated⟩

theorem consLiteral_of_head {segments : List Segment}
    (hhead : ∀ next ∈ segments.head?, next.isText = false) (c : Char) :
    consLiteral c segments = .text [c] :: segments := by
  cases segments with
  | nil => rfl
  | cons first rest =>
      cases first with
      | text t => simp [isText] at hhead
      | placeholder p => rfl

theorem Gathered.consLiteral {segments : List Segment} (hsegments : Gathered segments)
    (c : Char) : Gathered (consLiteral c segments) := by
  have hsingle : (∀ next ∈ segments.head?, next.isText = false) →
      Gathered (Segment.consLiteral c segments) := by
    intro hhead
    rw [consLiteral_of_head hhead, gathered_text_cons_iff]
    exact ⟨by simp, hhead, hsegments⟩
  cases segments with
  | nil => exact hsingle (by simp)
  | cons first rest =>
      cases first with
      | text t =>
          rw [gathered_text_cons_iff] at hsegments
          rw [Segment.consLiteral, gathered_text_cons_iff]
          exact ⟨by simp, hsegments.2⟩
      | placeholder p => exact hsingle (by simp [isText])

theorem gathered_ofMarks (marks : List Mark) : Gathered (ofMarks marks) := by
  induction marks with
  | nil => exact gathered_nil
  | cons mark rest ih =>
      cases mark with
      | literal c => exact ih.consLiteral c
      | specifier body => exact (gathered_placeholder_cons_iff _ _).mpr ih

theorem ofMarks_literals_append {t : Text} (ht : t ≠ []) {marks : List Mark}
    (hhead : ∀ next ∈ (ofMarks marks).head?, next.isText = false) :
    ofMarks (t.map .literal ++ marks) = .text t :: ofMarks marks := by
  induction t with
  | nil => exact absurd rfl ht
  | cons c t ih =>
      rw [List.map_cons, List.cons_append, ofMarks]
      cases t with
      | nil => exact consLiteral_of_head hhead c
      | cons d t => rw [ih (by simp), consLiteral]

theorem exists_of_placeholder_mem_ofMarks {marks : List Mark} {p : Placeholder}
    (hp : Segment.placeholder p ∈ ofMarks marks) : ∃ body, p = (Specifier.read body).1 := by
  have hconsLiteral : ∀ c segments, Segment.placeholder p ∈ consLiteral c segments →
      Segment.placeholder p ∈ segments := by
    intro c segments hmem
    unfold consLiteral at hmem
    split at hmem <;> simpa using hmem
  induction marks with
  | nil => simp [ofMarks] at hp
  | cons mark rest ih =>
      cases mark with
      | literal c => exact ih (hconsLiteral c _ hp)
      | specifier body =>
          rcases List.mem_cons.mp hp with heq | hrest
          · exact ⟨body, Segment.placeholder.inj heq⟩
          · exact ih hrest

/-! ## Gathering any segments -/

/-- Joins neighbouring texts and drops empty ones. -/
def gather : List Segment → List Segment
  | [] => []
  | .text t :: rest => t.foldr consLiteral (gather rest)
  | .placeholder p :: rest => .placeholder p :: gather rest

def placeholder? : Segment → Option Placeholder
  | .text _ => none
  | .placeholder p => some p

def placeholders (segments : List Segment) : List Placeholder := segments.filterMap placeholder?

@[simp] theorem placeholders_nil : placeholders [] = [] := rfl

@[simp] theorem placeholders_text (t : Text) (rest : List Segment) :
    placeholders (.text t :: rest) = placeholders rest := rfl

@[simp] theorem placeholders_placeholder (p : Placeholder) (rest : List Segment) :
    placeholders (.placeholder p :: rest) = p :: placeholders rest := rfl

theorem mem_placeholders_iff {p : Placeholder} {segments : List Segment} :
    p ∈ placeholders segments ↔ Segment.placeholder p ∈ segments := by
  induction segments with
  | nil => simp
  | cons segment rest ih =>
      cases segment with
      | text t => simp [ih]
      | placeholder q => simp [ih]

theorem placeholders_gather (segments : List Segment) :
    placeholders (gather segments) = placeholders segments := by
  have hconsLiteral : ∀ (c : Char) (rest : List Segment),
      placeholders (consLiteral c rest) = placeholders rest := by
    intro c rest
    fun_cases consLiteral c rest <;> rfl
  induction segments with
  | nil => rfl
  | cons segment rest ih =>
      cases segment with
      | placeholder p => rw [gather, placeholders_placeholder, placeholders_placeholder, ih]
      | text t =>
          rw [gather, placeholders_text]
          induction t with
          | nil => exact ih
          | cons c t iht => rw [List.foldr_cons, hconsLiteral, iht]

end Segment

end MessageCatalog
