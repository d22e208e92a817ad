import MessageCatalog.Proofs.Preprocessing.Surroundings

/-!
# Values under any renderer

What turns Markdown into HTML may be taken as given.  Nothing has to be known of it but
that its paragraphs are balanced, and the value that is made of its HTML has balanced
paragraphs too, unless the tags that are dropped belong to different paragraphs.
-/

namespace MessageCatalog

namespace MarkdownValue

open Markdown Html
open Text (IsBlank)

/-! ## What does not open or close paragraphs -/

theorem balancedParagraphs_cons_iff {c : Char} (hc : c ≠ '<') (html : Text) :
    BalancedParagraphs (c :: html) ↔ BalancedParagraphs html := by
  have hcons : ∀ name text, Text.occurrences (tag name) (c :: text) =
      Text.occurrences (tag name) text := by
    intro name text
    apply Text.occurrences_cons_of_ne _ (List.cons_ne_nil _ _)
    exact fun hhead => hc (Option.some.inj hhead).symm
  unfold BalancedParagraphs openingParagraph closingParagraph
  rw [hcons, hcons]
  apply and_congr_left
  intro _
  constructor
  · intro hbalanced front hfront
    have hlonger := hbalanced (c :: front) (List.cons_prefix_cons.mpr ⟨rfl, hfront⟩)
    rwa [hcons, hcons] at hlonger
  · intro hbalanced front hfront
    cases front with
    | nil => exact Nat.le_refl _
    | cons d front =>
        obtain ⟨rfl, hshort⟩ := List.cons_prefix_cons.mp hfront
        rw [hcons, hcons]
        exact hbalanced front hshort

theorem balancedParagraphs_concat_iff {c : Char} (hopening : c ∉ openingParagraph)
    (hclosing : c ∉ closingParagraph) (html : Text) :
    BalancedParagraphs (html ++ [c]) ↔ BalancedParagraphs html := by
  have hopen := Text.occurrences_concat hopening (List.cons_ne_nil _ _) html
  have hclose := Text.occurrences_concat hclosing (List.cons_ne_nil _ _) html
  unfold BalancedParagraphs
  rw [hopen, hclose]
  apply and_congr_left
  intro htotal
  constructor
  · intro hbalanced front hfront
    exact hbalanced front (hfront.trans (List.prefix_append html [c]))
  · intro hbalanced front hfront
    rcases List.prefix_concat_iff.mp hfront with rfl | hshort
    · rw [hopen, hclose, htotal]
    · exact hbalanced front hshort

theorem not_mem_of_isBlank {c : Char} (hc : isBlank c = true) :
    c ∉ openingParagraph ∧ c ∉ closingParagraph := by
  have hinked : (openingParagraph ++ closingParagraph).all (fun c => !isBlank c) = true := by
    decide
  have hboth : c ∉ openingParagraph ++ closingParagraph := by
    intro hmem
    have hnot := List.all_eq_true.mp hinked c hmem
    rw [hc] at hnot
    contradiction
  rwa [List.mem_append, not_or] at hboth

theorem balancedParagraphs_append_blanks_iff {html trailing : Text}
    (htrailing : IsBlank trailing) :
    BalancedParagraphs (html ++ trailing) ↔ BalancedParagraphs html := by
  induction trailing using List.reverseRecOn with
  | nil => rw [List.append_nil]
  | append_singleton trailing c ih =>
      obtain ⟨hrest, hc⟩ := List.forall_mem_append.mp htrailing
      obtain ⟨hopening, hclosing⟩ := not_mem_of_isBlank (hc c List.mem_cons_self)
      rw [← List.append_assoc]
      exact (balancedParagraphs_concat_iff hopening hclosing _).trans (ih hrest)

theorem balancedParagraphs_blanks_append_iff {leading html : Text} (hleading : IsBlank leading) :
    BalancedParagraphs (leading ++ html) ↔ BalancedParagraphs html := by
  induction leading with
  | nil => rfl
  | cons c leading ih =>
      obtain ⟨hblank, hrest⟩ := List.forall_mem_cons.mp hleading
      have hc : c ≠ '<' := by
        rintro rfl
        exact absurd hblank (by decide)
      exact (balancedParagraphs_cons_iff hc _).trans (ih hrest)

theorem balancedParagraphs_trim_iff (html : Text) :
    BalancedParagraphs (Text.trim html) ↔ BalancedParagraphs html := by
  conv_rhs => rw [← Text.leadingBlanks_append_trim_append_trailingBlanks html]
  rw [balancedParagraphs_append_blanks_iff (Text.isBlank_trailingBlanks html),
    balancedParagraphs_blanks_append_iff (Text.isBlank_leadingBlanks html)]

/-- A front of the restored text may end between a backslash and what it escapes. -/
theorem balancedParagraphs_restore_iff (html : Text) :
    BalancedParagraphs (restore html) ↔ BalancedParagraphs html := by
  unfold BalancedParagraphs
  rw [occurrences_openingParagraph_restore, occurrences_closingParagraph_restore]
  apply and_congr_left
  intro _
  constructor
  · rintro hbalanced front ⟨rest, rfl⟩
    have hclosed := hbalanced (restore front) (by
      rw [restore_append]
      exact List.prefix_append _ _)
    rwa [occurrences_openingParagraph_restore, occurrences_closingParagraph_restore] at hclosed
  · intro hbalanced front hfront
    obtain ⟨short, hshort, heq⟩ := exists_prefix_of_prefix_restore hfront
    have hclosed := hbalanced short hshort
    rcases heq with rfl | rfl
    · rwa [occurrences_openingParagraph_restore, occurrences_closingParagraph_restore]
    · rwa [Text.occurrences_concat (by decide) (by decide), occurrences_closingParagraph_restore,
        Text.occurrences_concat (by decide) (by decide), occurrences_openingParagraph_restore]

/-! ## Dropping tags -/

theorem balancedParagraphs_dropParagraphTags_iff {html : Text} (hhtml : BalancedParagraphs html) :
    BalancedParagraphs (dropParagraphTags html) ↔
      ∀ inner, html = openingParagraph ++ inner ++ closingParagraph →
        BalancedParagraphs inner := by
  constructor
  · rintro hbalanced inner rfl
    rwa [dropParagraphTags_paragraph] at hbalanced
  · intro hinner
    rcases dropParagraphTags_eq_or html with hsame | hdropped
    · rwa [hsame]
    · exact hinner _ hdropped

/-- If a renderer gives balanced paragraphs, then so has the value, unless the tags at its
two ends are those of different paragraphs. -/
theorem balancedParagraphs_renderWith_iff {toHtml : Text → Text} {value : Text}
    (hvalue : Text.trim value ≠ [])
    (hhtml : BalancedParagraphs (toHtml (protect (Text.trim value)))) :
    BalancedParagraphs (renderWith toHtml value) ↔
      ∀ inner, Text.trim (toHtml (protect (Text.trim value))) =
          openingParagraph ++ inner ++ closingParagraph →
        BalancedParagraphs inner := by
  rw [renderWith_of_trim_ne_nil toHtml hvalue,
    balancedParagraphs_append_blanks_iff (Text.isBlank_trailingBlanks value),
    balancedParagraphs_blanks_append_iff (Text.isBlank_leadingBlanks value), renderContentWith,
    balancedParagraphs_restore_iff]
  exact balancedParagraphs_dropParagraphTags_iff ((balancedParagraphs_trim_iff _).mpr hhtml)

/-- The renderer for Markdown is one of these. -/
theorem balancedParagraphs_render_iff_forall_inner {value : Text} (hless : '<' ∉ value)
    (hvalue : Text.trim value ≠ []) :
    BalancedParagraphs (render value) ↔
      ∀ inner, Text.trim (toHtml (protect (Text.trim value))) =
          openingParagraph ++ inner ++ closingParagraph →
        BalancedParagraphs inner :=
  balancedParagraphs_renderWith_iff hvalue
    (leads_toHtml (less_not_mem_protect_trim hless)).balancedParagraphs

end MarkdownValue

end MessageCatalog
