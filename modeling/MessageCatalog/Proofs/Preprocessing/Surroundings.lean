import MessageCatalog.Preprocessing.Named
import MessageCatalog.Proofs.Preprocessing.Paragraphs
import MessageCatalog.Proofs.Preprocessing.SmartPunctuation

/-!
# Blanks around values

Markdown and typographic punctuation leave the blanks around a value where
they are, and both treat what stands between them as if the blanks were not
there.  For Markdown the blanks are cut off first.  A quote, however, looks at
its neighbours: it is curled alike behind a blank and at the start of a text,
and alike in front of a blank and at the end.
-/

namespace MessageCatalog

namespace Text

/-- The text consists of white space. -/
def IsBlank (text : Text) : Prop := ∀ c ∈ text, isBlank c = true

theorem isBlank_nil : IsBlank [] := List.forall_mem_nil _

theorem IsBlank.append {left right : Text} (hleft : IsBlank left) (hright : IsBlank right) :
    IsBlank (left ++ right) :=
  List.forall_mem_append.mpr ⟨hleft, hright⟩

theorem IsBlank.not_mem {text : Text} (htext : IsBlank text) {c : Char}
    (hc : isBlank c = false) : c ∉ text := by
  intro hmem
  rw [htext c hmem] at hc
  cases hc

theorem isBlank_leadingBlanks (text : Text) : IsBlank (leadingBlanks text) :=
  fun _ hc => List.mem_takeWhile_imp hc

theorem isBlank_trailingBlanks (text : Text) : IsBlank (trailingBlanks text) :=
  fun _ hc => List.mem_takeWhile_imp (List.mem_reverse.mp hc)

end Text

open Text (IsBlank)

/-- A change of texts that leaves blanks alone and is not influenced by those
around a text. -/
structure KeepsBlanks (process : Text → Text) : Prop where
  process_nil : process [] = []
  process_append : ∀ {leading trailing : Text}, IsBlank leading → IsBlank trailing →
    ∀ text, process (leading ++ text ++ trailing) = leading ++ process text ++ trailing

theorem KeepsBlanks.eq_self {process : Text → Text} (hprocess : KeepsBlanks process)
    {blanks : Text} (hblanks : IsBlank blanks) : process blanks = blanks := by
  have happend := hprocess.process_append hblanks Text.isBlank_nil []
  simpa only [List.append_nil, hprocess.process_nil] using happend

namespace MarkdownValue

variable (toHtml : Text → Text)

theorem renderWith_of_trim_eq_self {leading content trailing : Text}
    (hleading : IsBlank leading) (htrailing : IsBlank trailing)
    (hcontent : Text.trim content = content) (hne : content ≠ []) :
    renderWith toHtml (leading ++ content ++ trailing) =
      leading ++ renderContentWith toHtml content ++ trailing := by
  have htrim := Text.trim_append hleading htrailing hcontent
  have hfront : Text.leadingBlanks (leading ++ content ++ trailing) = leading := by
    rw [List.append_assoc]
    apply Text.leadingBlanks_append hleading
    rw [List.head?_append_of_ne_nil _ hne]
    exact ((Text.trim_eq_self_iff content).mp hcontent).1
  have hback : Text.trailingBlanks (leading ++ content ++ trailing) = trailing := by
    have hsplit := Text.leadingBlanks_append_trim_append_trailingBlanks
      (leading ++ content ++ trailing)
    rw [hfront, htrim] at hsplit
    exact List.append_cancel_left hsplit
  rw [renderWith_of_trim_ne_nil toHtml (by rwa [htrim]), hfront, htrim, hback]

/-- However Markdown is turned into HTML, it does not see the blanks. -/
theorem keepsBlanks_renderWith : KeepsBlanks (renderWith toHtml) where
  process_nil := rfl
  process_append := by
    intro leading trailing hleading htrailing text
    have hsplit := Text.leadingBlanks_append_trim_append_trailingBlanks text
    by_cases hnone : Text.trim text = []
    · -- Nothing but blanks: both values stay as they are.
      have htrim : Text.trim (leading ++ text ++ trailing) = [] := by
        rw [Text.trim_append_right _ htrailing, Text.trim_append_left hleading, hnone]
      rw [renderWith, htrim, renderWith, hnone]
      rfl
    · have hfront := hleading.append (Text.isBlank_leadingBlanks text)
      have hback := (Text.isBlank_trailingBlanks text).append htrailing
      calc
        renderWith toHtml (leading ++ text ++ trailing) =
            renderWith toHtml (leading ++ Text.leadingBlanks text ++ Text.trim text
              ++ (Text.trailingBlanks text ++ trailing)) := by
          nth_rewrite 1 [← hsplit]
          simp only [List.append_assoc]
        _ = leading ++ Text.leadingBlanks text ++ renderContentWith toHtml (Text.trim text)
              ++ (Text.trailingBlanks text ++ trailing) :=
          renderWith_of_trim_eq_self toHtml hfront hback (Text.trim_trim text) hnone
        _ = leading ++ renderWith toHtml text ++ trailing := by
          rw [renderWith_of_trim_ne_nil toHtml hnone]
          simp only [List.append_assoc]

theorem keepsBlanks_render : KeepsBlanks render := keepsBlanks_renderWith Markdown.toHtml

end MarkdownValue

namespace SmartPunctuation

theorem curlChar_congr {before before' after after' : Option Char}
    (hopens : opens before after = opens before' after') (c : Char) :
    curlChar before after c = curlChar before' after' c := by
  rw [curlChar, curlChar, hopens]

/-- A blank in front of a text is like its start. -/
theorem curlBetween_of_isBlank_before {before : Option Char}
    (hbefore : ∀ c ∈ before, isBlank c = true) (after : Option Char) (text : Text) :
    curlBetween before after text = curlBetween none after text := by
  cases before with
  | none => rfl
  | some b =>
      cases text with
      | nil => rfl
      | cons c text =>
          have hb : isBlank b = true := hbefore b rfl
          have hopens : opens (some b) (text.head?.or after) =
              opens none (text.head?.or after) := by
            simp [opens, isBoundary, hb]
          rw [curlBetween, curlBetween, curlChar_congr hopens]

/-- A blank behind a text is like its end. -/
theorem curlBetween_of_isBlank_after {after : Option Char}
    (hafter : ∀ c ∈ after, isBlank c = true) (before : Option Char) (text : Text) :
    curlBetween before after text = curlBetween before none text := by
  cases after with
  | none => rfl
  | some a =>
      have ha : isBlank a = true := hafter a rfl
      induction text generalizing before with
      | nil => rfl
      | cons c text ih =>
          have hopens : opens before (text.head?.or (some a)) =
              opens before (text.head?.or none) := by
            cases text <;> simp [opens, ha]
          rw [curlBetween, curlBetween, ih, curlChar_congr hopens]

theorem ellipses_eq_self_of_isBlank {blanks : Text} (hblanks : IsBlank blanks) :
    ellipses blanks = blanks := by
  apply ellipses_eq_self
  intro hdots
  exact hblanks.not_mem (by decide) (hdots.subset (List.mem_cons_self (a := '.')))

theorem curlBetween_eq_self_of_isBlank {blanks : Text} (hblanks : IsBlank blanks)
    (before after : Option Char) : curlBetween before after blanks = blanks :=
  curlBetween_eq_self (hblanks.not_mem (by decide)) (hblanks.not_mem (by decide)) before after

theorem keepsBlanks_smarten : KeepsBlanks smarten where
  process_nil := rfl
  process_append := by
    intro leading trailing hleading htrailing text
    have hfront : leading.getLast? ≠ some '.' := fun hlast =>
      hleading.not_mem (by decide) (List.mem_of_getLast? hlast)
    have hback : trailing.head? ≠ some '.' := fun hhead =>
      htrailing.not_mem (by decide) (List.mem_of_head? hhead)
    have hellipses : ellipses (leading ++ text ++ trailing) =
        leading ++ ellipses text ++ trailing := by
      rw [ellipses_append (.inr hback), ellipses_append (.inl hfront),
        ellipses_eq_self_of_isBlank hleading, ellipses_eq_self_of_isBlank htrailing]
    have hbefore : ∀ c ∈ leading.getLast?.or none, isBlank c = true := by
      intro c hc
      rw [Option.or_none] at hc
      exact hleading c (List.mem_of_getLast? hc)
    have hafter : ∀ c ∈ trailing.head?.or none, isBlank c = true := by
      intro c hc
      rw [Option.or_none] at hc
      exact htrailing c (List.mem_of_head? hc)
    rw [smarten, hellipses, curl_eq_curlBetween, curlBetween_append, curlBetween_append,
      curlBetween_eq_self_of_isBlank hleading, curlBetween_eq_self_of_isBlank htrailing,
      curlBetween_of_isBlank_before hbefore, curlBetween_of_isBlank_after hafter, smarten,
      curl_eq_curlBetween]

end SmartPunctuation

/-! ## Pipelines -/

theorem Preprocessor.keepsBlanks_pipeline {stages : List Preprocessor}
    (hstages : ∀ stage ∈ stages, KeepsBlanks stage.raw) :
    KeepsBlanks (pipeline stages).raw := by
  induction stages with
  | nil => exact ⟨rfl, fun _ _ _ => rfl⟩
  | cons stage stages ih =>
      obtain ⟨hstage, hrest⟩ := List.forall_mem_cons.mp hstages
      have hlater := ih hrest
      constructor
      · rw [pipeline_cons_raw, hstage.process_nil, hlater.process_nil]
      · intro leading trailing hleading htrailing text
        rw [pipeline_cons_raw, pipeline_cons_raw, hstage.process_append hleading htrailing,
          hlater.process_append hleading htrailing]

theorem NamedPreprocessor.keepsBlanks_raw (named : NamedPreprocessor) :
    KeepsBlanks named.preprocessor.raw := by
  cases named with
  | markdown => exact MarkdownValue.keepsBlanks_render
  | smartPunctuation => exact SmartPunctuation.keepsBlanks_smarten

/-- Blanks around a value stay as they are and do not influence what Markdown,
typographic punctuation or a pipeline of them makes of the value, and blanks
alone are not changed at all. -/
theorem NamedPreprocessor.process_append_blanks {leading trailing : Text}
    (hleading : ∀ c ∈ leading, isBlank c = true) (htrailing : ∀ c ∈ trailing, isBlank c = true)
    (text : Text) :
    (MarkdownValue.render (leading ++ text ++ trailing) =
        leading ++ MarkdownValue.render text ++ trailing ∧
      SmartPunctuation.smarten (leading ++ text ++ trailing) =
        leading ++ SmartPunctuation.smarten text ++ trailing) ∧
    (MarkdownValue.render leading = leading ∧ SmartPunctuation.smarten leading = leading) ∧
    ∀ stages : List NamedPreprocessor,
      (Preprocessor.pipeline (stages.map preprocessor)).raw (leading ++ text ++ trailing) =
        leading ++ (Preprocessor.pipeline (stages.map preprocessor)).raw text ++ trailing := by
  have hrender := MarkdownValue.keepsBlanks_render
  have hsmarten := SmartPunctuation.keepsBlanks_smarten
  refine ⟨⟨hrender.process_append hleading htrailing text,
    hsmarten.process_append hleading htrailing text⟩,
    ⟨hrender.eq_self hleading, hsmarten.eq_self hleading⟩, ?_⟩
  intro stages
  apply (Preprocessor.keepsBlanks_pipeline _).process_append hleading htrailing
  intro stage hstage
  obtain ⟨named, -, rfl⟩ := List.mem_map.mp hstage
  exact named.keepsBlanks_raw

/-- Quotes at the ends of a value are curled in the same way between blanks. -/
theorem NamedPreprocessor.process_append_blanks_quotes :
    (∀ c ∈ ['\u00A0'], isBlank c = true) ∧ (∀ c ∈ ['\u3000', '\n'], isBlank c = true) ∧
      MarkdownValue.render (['\u00A0'] ++ "'*a*'".toList ++ ['\u3000', '\n']) =
        ['\u00A0'] ++ "‘<em>a</em>’".toList ++ ['\u3000', '\n'] ∧
      SmartPunctuation.smarten (['\u00A0'] ++ "'*a*'".toList ++ ['\u3000', '\n']) =
        ['\u00A0'] ++ "‘*a*’".toList ++ ['\u3000', '\n'] := by
  have hleading : ∀ c ∈ ['\u00A0'], isBlank c = true := List.forall_mem_singleton.mpr rfl
  have htrailing : ∀ c ∈ ['\u3000', '\n'], isBlank c = true :=
    List.forall_mem_cons.mpr ⟨rfl, List.forall_mem_singleton.mpr rfl⟩
  have hrender : MarkdownValue.render "'*a*'".toList = "‘<em>a</em>’".toList := by decide +kernel
  have hsmarten : SmartPunctuation.smarten "'*a*'".toList = "‘*a*’".toList := by decide
  have hall := (process_append_blanks hleading htrailing "'*a*'".toList).1
  rw [hrender, hsmarten] at hall
  exact ⟨hleading, htrailing, hall⟩

end MessageCatalog
