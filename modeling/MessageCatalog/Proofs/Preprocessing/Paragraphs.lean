import MessageCatalog.Proofs.Markdown.Html
import MessageCatalog.Proofs.Preprocessing.Protection
import MessageCatalog.Proofs.Text.Trimming

/-!
# Paragraphs around values

The HTML of a value loses the tags around it if it begins and ends as a
paragraph does.  For a single paragraph these are its own tags.  Where several
blocks begin and end with a paragraph each, they are the opening tag of the
first and the closing tag of the last one, and what is left is torn.
-/

namespace MessageCatalog

namespace MarkdownValue

open Markdown Html

/-! ## The tags around a value -/

theorem dropParagraphTags_paragraph (html : Text) :
    dropParagraphTags (openingParagraph ++ html ++ closingParagraph) = html := by
  have hcondition : "<p>".toList.isPrefixOf (openingParagraph ++ html ++ closingParagraph) ∧
      "</p>".toList.isSuffixOf (html ++ closingParagraph) := by
    rw [List.isPrefixOf_iff_prefix, List.isSuffixOf_iff_suffix, List.append_assoc]
    exact ⟨List.prefix_append openingParagraph _, List.suffix_append html closingParagraph⟩
  have hdrop : (openingParagraph ++ html ++ closingParagraph).drop "<p>".toList.length =
      html ++ closingParagraph := by
    rw [List.append_assoc]
    rfl
  unfold dropParagraphTags
  dsimp only
  rw [hdrop, if_pos hcondition]
  have hlength : (html ++ closingParagraph).length - "</p>".toList.length = html.length := by
    rw [List.length_append]
    exact Nat.add_sub_cancel html.length closingParagraph.length
  rw [hlength, List.take_left]

theorem dropParagraphTags_eq_or (html : Text) :
    dropParagraphTags html = html ∨
      html = openingParagraph ++ dropParagraphTags html ++ closingParagraph := by
  by_cases hends : openingParagraph <+: html ∧ closingParagraph <:+ html.drop "<p>".toList.length
  · right
    obtain ⟨⟨rest, rfl⟩, hclosing⟩ := hends
    obtain ⟨inner, hinner⟩ := hclosing
    have hrest : (openingParagraph ++ rest).drop "<p>".toList.length = rest := rfl
    rw [hrest] at hinner
    rw [← hinner, ← List.append_assoc, dropParagraphTags_paragraph]
  · left
    unfold dropParagraphTags
    dsimp only
    rw [if_neg]
    rwa [List.isPrefixOf_iff_prefix, List.isSuffixOf_iff_suffix]

theorem dropParagraphTags_eq_self {html : Text}
    (hnot : ¬ (openingParagraph <+: html ∧ closingParagraph <:+ html)) :
    dropParagraphTags html = html := by
  apply (dropParagraphTags_eq_or html).resolve_right
  intro heq
  apply hnot
  rw [heq]
  refine ⟨?_, List.suffix_append _ closingParagraph⟩
  rw [List.append_assoc]
  exact List.prefix_append openingParagraph _

/-- More than one block, the first and the last of which are paragraphs. -/
def Torn (blocks : List Block) : Prop :=
  ∃ first middle last, blocks = .paragraph first :: (middle ++ [.paragraph last])

theorem torn_iff_isParagraph (first last : Block) (middle : List Block) :
    Torn (first :: (middle ++ [last])) ↔ IsParagraph first ∧ IsParagraph last := by
  constructor
  · rintro ⟨text, between, text', heq⟩
    obtain ⟨rfl, hrest⟩ := List.cons.inj heq
    obtain ⟨-, hlast⟩ := List.append_inj' hrest rfl
    obtain rfl := List.singleton_inj.mp hlast
    exact ⟨trivial, trivial⟩
  · rintro ⟨hfirst, hlast⟩
    cases first <;> cases hfirst
    cases last <;> cases hlast
    exact ⟨_, middle, _, rfl⟩

theorem trim_append_newline {html : Text} (hhead : html.head? = some '<')
    (hlast : html.getLast? = some '>') : Text.trim (html ++ ['\n']) = html := by
  have htrim : Text.trim html = html := by
    rw [Text.trim_eq_self_iff, hhead, hlast]
    exact ⟨by simp [isBlank], by simp [isBlank]⟩
  rw [Text.trim_append_right html (List.forall_mem_singleton.mpr (by decide)), htrim]

theorem leads_dropParagraphTags_of_not {html : Text} (hhtml : Leads 0 0 (html ++ ['\n']))
    (hhead : html.head? = some '<') (hlast : html.getLast? = some '>')
    (hnot : ¬ (openingParagraph <+: html ∧ closingParagraph <:+ html)) :
    Leads 0 0 (dropParagraphTags (Text.trim (html ++ ['\n']))) := by
  rw [trim_append_newline hhead hlast, dropParagraphTags_eq_self hnot]
  exact hhtml.of_append (by decide) (by decide)

theorem leads_dropParagraphTags_singleton (definitions : List Definition) {block : Block}
    (hblock : block.Plain) :
    Leads 0 0 (dropParagraphTags (Text.trim (ofBlock definitions false true block))) := by
  have hleads := leads_ofBlock definitions false true 0 block hblock
  obtain ⟨html, hhtml, heq⟩ := isLine_ofBlock definitions hblock
  by_cases hparagraph : IsParagraph block
  · cases hblock <;> cases hparagraph
    next text htext =>
      have hhead := (isEnclosed_paragraph (ofText definitions text)).head?_eq
      have hlast := (isEnclosed_paragraph (ofText definitions text)).getLast?_eq
      rw [ofBlock_paragraph, trim_append_newline hhead hlast, dropParagraphTags_paragraph]
      exact leads_ofText definitions htext 0
  · rw [heq] at hleads ⊢
    apply leads_dropParagraphTags_of_not hleads hhtml.head?_eq hhtml.getLast?_eq
    rintro ⟨hopening, -⟩
    rw [← List.append_nil html] at hopening
    exact hparagraph ((hhtml.opening_iff []).mp hopening)

/-- Unless blocks are torn, they lose at most tags that belong together. -/
theorem leads_dropParagraphTags (definitions : List Definition) {blocks : List Block}
    (hblocks : ∀ block ∈ blocks, block.Plain) (htorn : ¬ Torn blocks) :
    Leads 0 0 (dropParagraphTags (Text.trim (ofBlocks definitions false true blocks))) := by
  have hleads := leads_ofBlocks definitions false true 0 blocks hblocks
  rw [ofBlocks_eq_flatMap definitions hblocks] at hleads ⊢
  rcases List.eq_nil_or_concat blocks with rfl | ⟨before, last, rfl⟩
  · exact hleads
  · rw [List.concat_eq_append] at hblocks hleads htorn ⊢
    obtain ⟨hbefore, hlast⟩ := List.forall_mem_append.mp hblocks
    cases before with
    | nil =>
        rw [List.nil_append, List.flatMap_singleton]
        exact leads_dropParagraphTags_singleton definitions (hlast last List.mem_cons_self)
    | cons first middle =>
        rw [List.cons_append, torn_iff_isParagraph] at htorn
        obtain ⟨html, hhtml, heq⟩ := isLine_ofBlock definitions (hbefore first List.mem_cons_self)
        obtain ⟨html', hhtml', heq'⟩ := isLine_ofBlock definitions (hlast last List.mem_cons_self)
        have hsplit : (first :: middle ++ [last]).flatMap (ofBlock definitions false true) =
            html ++ ('\n' :: middle.flatMap (ofBlock definitions false true)) ++ html'
              ++ ['\n'] := by
          simp [heq, heq']
        rw [hsplit] at hleads ⊢
        apply leads_dropParagraphTags_of_not hleads
        · rw [List.append_assoc, List.head?_append, hhtml.head?_eq]
          rfl
        · rw [List.getLast?_append, hhtml'.getLast?_eq]
          rfl
        · -- Both tags would be there only if each end were a paragraph of its own.
          rintro ⟨hopening, hclosing⟩
          rw [List.append_assoc] at hopening
          exact htorn ⟨(hhtml.opening_iff _).mp hopening, (hhtml'.closing_iff _).mp hclosing⟩

/-- Of torn blocks the closing tag of the first is left without the opening
one. -/
theorem exists_leads_of_torn (definitions : List Definition) {blocks : List Block}
    (hblocks : ∀ block ∈ blocks, block.Plain) (htorn : Torn blocks) :
    ∃ front rest, Leads 0 0 front ∧
      dropParagraphTags (Text.trim (ofBlocks definitions false true blocks)) =
        front ++ closingParagraph ++ rest := by
  rw [ofBlocks_eq_flatMap definitions hblocks]
  obtain ⟨first, middle, last, rfl⟩ := htorn
  obtain ⟨hfirst⟩ := hblocks _ List.mem_cons_self
  let between : Text := '\n' :: middle.flatMap (ofBlock definitions false true)
  let rest : Text := between ++ openingParagraph ++ ofText definitions last
  let html : Text := ofText definitions first ++ closingParagraph ++ rest
  have hsplit : (.paragraph first :: (middle ++ [.paragraph last]) : List Block).flatMap
      (ofBlock definitions false true) =
        openingParagraph ++ html ++ closingParagraph ++ ['\n'] := by
    simp [html, rest, between, ofBlock_paragraph]
  refine ⟨ofText definitions first, rest, leads_ofText definitions hfirst 0, ?_⟩
  rw [hsplit, trim_append_newline (isEnclosed_paragraph html).head?_eq
    (isEnclosed_paragraph html).getLast?_eq, dropParagraphTags_paragraph]

/-! ## Escapes between tags -/

theorem restoreChar_eq_or (c : Char) :
    escaped? c = none ∧ restoreChar c = [c] ∨
      ∃ escaped, (escaped = '\\' ∨ escaped = '{' ∨ escaped = '}') ∧
        escaped? c = some escaped ∧ restoreChar c = ['\\', escaped] := by
  by_cases hc : escaped? c = none
  · exact .inl ⟨hc, restoreChar_of_escaped?_eq_none hc⟩
  · obtain ⟨escaped, hescaped⟩ := Option.ne_none_iff_exists'.mp hc
    refine .inr ⟨escaped, ?_, hescaped, by rw [restoreChar, hescaped]⟩
    unfold escaped? at hescaped
    split_ifs at hescaped <;> cases hescaped <;> simp

/-- Whether a character is neither a stand-in nor part of an escape. -/
def IsOrdinary (c : Char) : Prop :=
  escaped? c = none ∧ c ≠ '\\' ∧ c ≠ '{' ∧ c ≠ '}'

instance (c : Char) : Decidable (IsOrdinary c) :=
  inferInstanceAs (Decidable (_ ∧ _ ∧ _ ∧ _))

theorem prefix_restore_iff {mark : Text} (hmark : ∀ c ∈ mark, IsOrdinary c) (text : Text) :
    mark <+: restore text ↔ mark <+: text := by
  induction mark generalizing text with
  | nil => simp
  | cons c mark ih =>
      obtain ⟨hc, hrest⟩ := List.forall_mem_cons.mp hmark
      cases text with
      | nil => rw [restore_nil]
      | cons d text =>
          rw [restore_cons]
          rcases restoreChar_eq_or d with ⟨-, heq⟩ | ⟨escaped, -, hescaped, heq⟩
          · rw [heq, List.singleton_append, List.cons_prefix_cons, List.cons_prefix_cons,
              ih hrest]
          · have hne : c ≠ d := by
              rintro rfl
              simp [hc.1] at hescaped
            rw [heq, List.cons_append, List.cons_prefix_cons, List.cons_prefix_cons]
            simp [hc.2.1, hne]

theorem occurrences_restore {mark : Text} (hmark : ∀ c ∈ mark, IsOrdinary c) (hne : mark ≠ [])
    (text : Text) : Text.occurrences mark (restore text) = Text.occurrences mark text := by
  have hskip : ∀ {c}, ¬ IsOrdinary c → ∀ rest,
      Text.occurrences mark (c :: rest) = Text.occurrences mark rest := by
    intro c hc rest
    apply Text.occurrences_cons_of_ne _ hne
    exact fun hhead => hc (hmark c (List.mem_of_head? hhead))
  induction text with
  | nil => rfl
  | cons c text ih =>
      have hhere := prefix_restore_iff hmark (c :: text)
      rw [restore_cons] at hhere ⊢
      rcases restoreChar_eq_or c with ⟨-, heq⟩ | ⟨escaped, hescapes, hescaped, heq⟩
      · rw [heq, List.singleton_append] at hhere ⊢
        rw [Text.occurrences, Text.occurrences, ih, if_congr hhere rfl rfl]
      · have hstandIn : ¬ IsOrdinary c := fun hc => by simp [hc.1] at hescaped
        have hback : ¬ IsOrdinary escaped := by
          rintro ⟨-, hbackslash, hopen, hclose⟩
          exact hescapes.elim hbackslash fun hbrace => hbrace.elim hopen hclose
        rw [heq, List.cons_append, List.singleton_append, hskip (by decide), hskip hback,
          hskip hstandIn, ih]

theorem eq_of_prefix_restoreChar {front : Text} {c : Char} (hfront : front <+: restoreChar c) :
    front = restoreChar c ∨ front = [] ∨ front = ['\\'] := by
  have hsingle : ∀ {more : Text} {d : Char}, more <+: [d] → more = [] ∨ more = [d] := by
    intro more d hmore
    rcases List.prefix_cons_iff.mp hmore with hnone | ⟨rest, rfl, hrest⟩
    · exact .inl hnone
    · rw [List.prefix_nil.mp hrest]
      exact .inr rfl
  rcases restoreChar_eq_or c with ⟨-, heq⟩ | ⟨escaped, -, -, heq⟩
  · rw [heq] at hfront ⊢
    exact (hsingle hfront).elim (fun hnone => .inr (.inl hnone)) .inl
  · rw [heq] at hfront ⊢
    rcases List.prefix_cons_iff.mp hfront with hnone | ⟨more, rfl, hmore⟩
    · exact .inr (.inl hnone)
    · rcases hsingle hmore with rfl | rfl
      · exact .inr (.inr rfl)
      · exact .inl rfl

/-- What is restored up to some point ends behind a whole character or between
a backslash and what it escapes. -/
theorem exists_prefix_of_prefix_restore {front text : Text} (hfront : front <+: restore text) :
    ∃ before, before <+: text ∧ (front = restore before ∨ front = restore before ++ ['\\']) := by
  induction text generalizing front with
  | nil => exact ⟨[], List.prefix_rfl, .inl (List.prefix_nil.mp hfront)⟩
  | cons c text ih =>
      rw [restore_cons] at hfront
      rcases prefix_append_cases hfront with hshort | ⟨more, hmore, rfl⟩
      · rcases eq_of_prefix_restoreChar hshort with rfl | rfl | rfl
        · exact ⟨[c], by simp, .inl (by simp)⟩
        · exact ⟨[], List.nil_prefix, .inl rfl⟩
        · exact ⟨[], List.nil_prefix, .inr rfl⟩
      · obtain ⟨before, hbefore, heq⟩ := ih hmore
        refine ⟨c :: before, List.cons_prefix_cons.mpr ⟨rfl, hbefore⟩, ?_⟩
        rw [restore_cons]
        rcases heq with rfl | rfl
        · exact .inl rfl
        · exact .inr (List.append_assoc _ _ _).symm

theorem mem_restore_iff {c : Char} (hc : IsOrdinary c) {text : Text} :
    c ∈ restore text ↔ c ∈ text := by
  constructor
  · intro hmem
    obtain ⟨d, hd, hmem⟩ := List.mem_flatMap.mp hmem
    rcases restoreChar_eq_or d with ⟨-, heq⟩ | ⟨escaped, hescapes, -, heq⟩
    · rw [heq, List.mem_singleton] at hmem
      rwa [hmem]
    · obtain ⟨-, hbackslash, hopen, hclose⟩ := hc
      rw [heq, List.mem_pair] at hmem
      rcases hmem with rfl | rfl
      · exact absurd rfl hbackslash
      · exact (hescapes.elim hbackslash fun hbrace => hbrace.elim hopen hclose).elim
  · intro hmem
    refine List.mem_flatMap.mpr ⟨c, hmem, ?_⟩
    rw [restoreChar_of_escaped?_eq_none hc.1]
    exact List.mem_cons_self

theorem whole_restore {html : Text} (hhtml : Whole html) : Whole (restore html) := by
  induction html with
  | nil => trivial
  | cons c html ih =>
      rw [restore_cons]
      rcases restoreChar_eq_or c with ⟨-, heq⟩ | ⟨escaped, hescapes, -, heq⟩
      · rw [heq]
        exact ⟨fun hc => (mem_restore_iff (by decide)).mpr (hhtml.1 hc), ih hhtml.2⟩
      · have hplain : '<' ∉ ['\\', escaped] := by
          rcases hescapes with rfl | rfl | rfl <;> decide
        rw [heq]
        exact (whole_of_not_mem hplain).append (ih hhtml.2)

theorem occurrences_openingParagraph_restore (text : Text) :
    Text.occurrences openingParagraph (restore text) =
      Text.occurrences openingParagraph text :=
  occurrences_restore (by simp [IsOrdinary, escaped?])
    (List.cons_ne_nil _ _) text

theorem occurrences_closingParagraph_restore (text : Text) :
    Text.occurrences closingParagraph (restore text) =
      Text.occurrences closingParagraph text :=
  occurrences_restore (by simp [IsOrdinary, escaped?])
    (List.cons_ne_nil _ _) text

/-- Escapes open and close no paragraphs. -/
theorem leads_restore {before after : Nat} {html : Text} (hhtml : Leads before after html) :
    Leads before after (restore html) := by
  refine ⟨whole_restore hhtml.whole, ?_, ?_⟩
  · intro front hfront
    obtain ⟨short, hshort, heq⟩ := exists_prefix_of_prefix_restore hfront
    have hclosed := hhtml.closed_le short hshort
    rcases heq with rfl | rfl
    · rwa [occurrences_openingParagraph_restore, occurrences_closingParagraph_restore]
    · rwa [Text.occurrences_concat (by decide) (by decide), occurrences_closingParagraph_restore,
        Text.occurrences_concat (by decide) (by decide), occurrences_openingParagraph_restore]
  · rw [occurrences_openingParagraph_restore, occurrences_closingParagraph_restore]
    exact hhtml.total

/-! ## Whole values -/

theorem not_mem_protect {c : Char} (hc : ∀ d, standIn? d ≠ some c) {text : Text}
    (htext : c ∉ text) : c ∉ protect text := by
  rw [protect_eq_flatMap_units]
  intro hmem
  obtain ⟨unit, hunit, hmem⟩ := List.mem_flatMap.mp hmem
  have hflat : c ∉ unit := fun hinside =>
    htext (flatten_units text ▸ List.mem_flatten_of_mem hunit hinside)
  unfold protectUnit at hmem
  split at hmem
  · next d e =>
    split at hmem
    · next standIn hstandIn =>
        rw [List.mem_singleton] at hmem
        exact hc _ (hmem ▸ hstandIn)
    · exact hflat hmem
  · exact hflat hmem

theorem less_not_mem_protect_trim {value : Text} (hvalue : '<' ∉ value) :
    '<' ∉ protect (Text.trim value) := by
  rw [← Text.leadingBlanks_append_trim_append_trailingBlanks value, List.mem_append,
    List.mem_append, not_or, not_or] at hvalue
  apply not_mem_protect _ hvalue.1.2
  intro c
  unfold standIn?
  split_ifs <;> simp

theorem renderWith_of_trim_ne_nil (toHtml : Text → Text) {value : Text}
    (hvalue : Text.trim value ≠ []) :
    renderWith toHtml value = Text.leadingBlanks value
      ++ renderContentWith toHtml (Text.trim value) ++ Text.trailingBlanks value := by
  rw [renderWith, if_neg (by rwa [List.isEmpty_iff])]

theorem render_eq (value : Text) :
    render value = Text.leadingBlanks value ++ renderContentWith toHtml (Text.trim value)
      ++ Text.trailingBlanks value := by
  by_cases htrim : Text.trim value = []
  · have hnone : renderContentWith toHtml [] = [] := by decide
    have hsplit := Text.leadingBlanks_append_trim_append_trailingBlanks value
    rw [htrim] at hsplit
    rw [render, renderWith, htrim, hnone, hsplit]
    rfl
  · exact renderWith_of_trim_ne_nil toHtml htrim

/-- Markdown without an angle bracket becomes HTML with balanced paragraphs.
They are still balanced in the value that is made of it, except for values
that begin and end with a paragraph of their own. -/
theorem balancedParagraphs_render_iff {value : Text} (hvalue : '<' ∉ value) :
    BalancedParagraphs (toHtml (protect (Text.trim value))) ∧
      (BalancedParagraphs (render value) ↔
        ¬ Torn (Content.ofText (protect (Text.trim value))).blocks) := by
  have hprotect := less_not_mem_protect_trim hvalue
  rw [← Text.leadingBlanks_append_trim_append_trailingBlanks value, List.mem_append,
    List.mem_append, not_or, not_or] at hvalue
  obtain ⟨⟨hleading, -⟩, htrailing⟩ := hvalue
  have hblocks := Content.plain_ofText hprotect
  refine ⟨(leads_toHtml hprotect).balancedParagraphs, ?_⟩
  rw [render_eq, renderContentWith, toHtml, ofContent]
  generalize Content.ofText (protect (Text.trim value)) = content at hblocks ⊢
  have hfront := leads_of_not_mem hleading 0
  constructor
  · -- The first closing tag follows a text in which all paragraphs are closed.
    intro hbalanced htorn
    obtain ⟨front, rest, hleads, heq⟩ := exists_leads_of_torn content.definitions hblocks htorn
    have hclosing : restore closingParagraph = closingParagraph := by decide
    rw [heq, restore_append, restore_append, hclosing] at hbalanced
    have htotal := hfront.append (leads_restore hleads)
    apply htotal.not_balancedParagraphs (restore rest ++ Text.trailingBlanks value)
    simpa only [List.append_assoc] using hbalanced
  · intro htorn
    have hcontent := leads_restore (leads_dropParagraphTags content.definitions hblocks htorn)
    have hback := leads_of_not_mem htrailing 0
    exact ((hfront.append hcontent).append hback).balancedParagraphs

/-- A list behind the paragraph keeps it whole.  A line ends with a carriage
return here. -/
theorem balancedParagraphs_render_list :
    '<' ∉ "a\r\r- b".toList ∧ BalancedParagraphs (render "a\r\r- b".toList) := by
  have hvalue : '<' ∉ "a\r\r- b".toList := by decide
  have hblocks : (Content.ofText (protect (Text.trim "a\r\r- b".toList))).blocks =
      [.paragraph ['a'], .list none true [[.paragraph ['b']]]] := rfl
  refine ⟨hvalue, (balancedParagraphs_render_iff hvalue).2.mpr ?_⟩
  rw [hblocks]
  exact fun htorn => ((torn_iff_isParagraph _ _ []).mp htorn).2

/-- Two paragraphs are torn. -/
theorem not_forall_balancedParagraphs_render :
    render "a\n\nb".toList = "a</p>\n<p>b".toList ∧
      ¬ ∀ value, '<' ∉ value → BalancedParagraphs (render value) := by
  have hrender : render "a\n\nb".toList = "a</p>\n<p>b".toList := rfl
  refine ⟨hrender, ?_⟩
  intro hall
  have hbalanced := hall "a\n\nb".toList (by decide)
  rw [hrender] at hbalanced
  exact absurd (hbalanced.1 "a</p>".toList (by decide)) (by decide)

end MarkdownValue

end MessageCatalog
