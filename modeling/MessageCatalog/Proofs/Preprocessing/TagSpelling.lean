import MessageCatalog.Proofs.Markdown.Attributes
import MessageCatalog.Proofs.Preprocessing.Surroundings

/-!
# Tags under typographic punctuation

Typographic punctuation does not know of tags.  It adds none and takes none
away, but it rewrites each of them as if it were a text of its own.  Tags that
hold only a name stay as they are; the quotes around an attribute, however, are
curled.  So the HTML of a value keeps its tags exactly if the value is written
without links, images, code in a language of its own, and lists that do not
count from one.
-/

namespace MessageCatalog

open Markdown Html MarkdownValue SmartPunctuation

namespace SmartPunctuation

/-! ## The tags of a changed text -/

theorem greater_mem_straighten_iff {text : Text} : '>' ∈ straighten text ↔ '>' ∈ text := by
  have hchar : ∀ c, '>' ∈ straightenChar c ↔ c = '>' := by
    intro c
    unfold straightenChar
    split_ifs with hsingle hdouble hellipsis
    · rcases hsingle with rfl | rfl <;> decide
    · rcases hdouble with rfl | rfl <;> decide
    · rw [hellipsis]
      decide
    · rw [List.mem_singleton, eq_comm]
  unfold straighten
  simp only [List.mem_flatMap, hchar, exists_eq_right]

theorem greater_mem_iff_of_straighten_eq {left right : Text}
    (heq : straighten left = straighten right) : '>' ∈ left ↔ '>' ∈ right := by
  rw [← greater_mem_straighten_iff, heq, greater_mem_straighten_iff]

theorem ellipses_append_greater (name rest : Text) :
    ellipses (name ++ '>' :: rest) = ellipses name ++ '>' :: ellipses rest := by
  rw [ellipses_append (.inr (by simp)), ellipses_cons_of_ne (by decide)]

theorem ellipses_tag (name : Text) : ellipses (tag name) = tag (ellipses name) := by
  unfold tag
  rw [ellipses_cons_of_ne (by decide), ellipses_append_greater]
  rfl

theorem tags_ellipses (text : Text) : tags (ellipses text) = (tags text).map ellipses := by
  induction text using ellipses_induction with
  | nil => rfl
  | append rest ih =>
      have hdots : '<' ∉ dots := by decide
      rw [ellipses_dots_append, tags_cons_of_ne (by decide), ih,
        tags_append (whole_of_not_mem hdots), tags_of_not_mem hdots, List.nil_append]
  | cons c rest hfront ih =>
      rw [ellipses_cons_of_not_dots hfront]
      by_cases hc : c = '<'
      · subst hc
        by_cases hrest : '>' ∈ rest
        · obtain ⟨name, behind, rfl, hname⟩ := List.eq_append_cons_of_mem hrest
          have hshort := mt (greater_mem_iff_of_straighten_eq (straighten_ellipses name)).mp hname
          rw [ellipses_append_greater] at ih ⊢
          rw [tags_open_append hshort, tags_open_append hname, ih, List.map_cons, ellipses_tag]
        · have hshort := mt (greater_mem_iff_of_straighten_eq (straighten_ellipses rest)).mp hrest
          rw [tags_open_of_not_mem hshort, tags_open_of_not_mem hrest, ih]
      · rw [tags_cons_of_ne hc, tags_cons_of_ne hc, ih]

theorem curlBetween_append_greater (before after : Option Char) (name rest : Text) :
    curlBetween before after (name ++ '>' :: rest) =
      curlBetween before (some '>') name ++ '>' :: curlBetween (some '>') after rest := by
  rw [curlBetween_append, curlBetween_cons_of_ne (by decide) (by decide)]
  rfl

/-- What stands inside a tag has its brackets as neighbours, whatever stands
around the tag. -/
theorem curlBetween_tag (before after : Option Char) (name : Text) :
    curlBetween before after (tag name) = tag (curlBetween (some '<') (some '>') name) := by
  unfold tag
  rw [curlBetween_cons_of_ne (by decide) (by decide), curlBetween_append_greater]
  rfl

theorem tags_curlBetween (before after : Option Char) (text : Text) :
    tags (curlBetween before after text) = (tags text).map (curlBetween none none) := by
  induction text using tags_induction generalizing before with
  | nil => rfl
  | other c rest hc ih =>
      have hcurled : curlChar before (rest.head?.or after) c ≠ '<' := fun heq =>
        hc (eq_of_curlChar_eq rfl heq)
      rw [curlBetween, tags_cons_of_ne hcurled, tags_cons_of_ne hc, ih]
  | closed name rest hname ih =>
      have hcurled := mt (greater_mem_iff_of_straighten_eq
        (straighten_curlBetween (some '<') (some '>') name)).mp hname
      have hinside := ih (some '<')
      rw [curlBetween_append_greater] at hinside
      rw [curlBetween_cons_of_ne (by decide) (by decide), curlBetween_append_greater,
        tags_open_append hcurled, tags_open_append hname, hinside, List.map_cons, curlBetween_tag]
  | unclosed rest hrest ih =>
      have hcurled := mt (greater_mem_iff_of_straighten_eq
        (straighten_curlBetween (some '<') after rest)).mp hrest
      rw [curlBetween_cons_of_ne (by decide) (by decide), tags_open_of_not_mem hcurled,
        tags_open_of_not_mem hrest, ih]

/-- The tags of a text are rewritten one by one. -/
theorem tags_smarten (text : Text) : tags (smarten text) = (tags text).map smarten := by
  have hcurl : curl none = curlBetween none none := funext (curl_eq_curlBetween none)
  have hsmarten : smarten = curlBetween none none ∘ ellipses := by
    rw [← hcurl]
    rfl
  rw [hsmarten, Function.comp_apply, tags_curlBetween, tags_ellipses, List.map_map]

/-- Whatever wrote the HTML, it keeps its tags exactly if none of them holds what
typographic punctuation replaces. -/
theorem tags_smarten_eq_self_iff (html : Text) :
    tags (smarten html) = tags html ↔ ∀ t ∈ tags html, Settled t := by
  rw [tags_smarten]
  constructor
  · intro hsame t ht
    have heq := List.map_inj_left.mp (hsame.trans (List.map_id _).symm) t ht
    exact (smarten_eq_self_iff t).mp heq
  · intro hsettled
    refine (List.map_congr_left ?_).trans (List.map_id _)
    exact fun t ht => (smarten_eq_self_iff t).mpr (hsettled t ht)

theorem settled_of_isBare {text : Text} (htext : IsBare text) : Settled text where
  no_single := htext.1
  no_double := htext.2.1
  no_dots := fun hdots => htext.2.2 (hdots.subset List.mem_cons_self)

end SmartPunctuation

namespace MarkdownValue

/-! ## The tags of a value -/

theorem tags_restore (html : Text) : tags (restore html) = (tags html).map restore := by
  induction html using tags_induction with
  | nil => rfl
  | other c rest hc ih =>
      have hplain : '<' ∉ restoreChar c := by
        have hone : '<' ∈ restore [c] ↔ '<' ∈ [c] := mem_restore_iff (by decide)
        rw [restore_cons, restore_nil, List.append_nil, List.mem_singleton] at hone
        exact fun hmem => hc (hone.mp hmem).symm
      rw [restore_cons, tags_append (whole_of_not_mem hplain), tags_of_not_mem hplain,
        tags_cons_of_ne hc, ih, List.nil_append]
  | closed name rest hname ih =>
      have hopening : restoreChar '<' = ['<'] := rfl
      have hclosing : restoreChar '>' = ['>'] := rfl
      have hrestored : '>' ∉ restore name := mt (mem_restore_iff (by decide)).mp hname
      have htag : restore (tag name) = tag (restore name) := by simp [tag, hopening, hclosing]
      rw [restore_append, restore_cons, hclosing, List.singleton_append] at ih
      rw [restore_cons, hopening, List.singleton_append, restore_append, restore_cons, hclosing,
        List.singleton_append, tags_open_append hrestored, tags_open_append hname, ih,
        List.map_cons, htag]
  | unclosed rest hrest ih =>
      have hopening : restoreChar '<' = ['<'] := rfl
      have hrestored : '>' ∉ restore rest := mt (mem_restore_iff (by decide)).mp hrest
      rw [restore_cons, hopening, List.singleton_append, tags_open_of_not_mem hrestored,
        tags_open_of_not_mem hrest, ih]

theorem isBare_restore {text : Text} (htext : IsBare text) : IsBare (restore text) :=
  ⟨mt (mem_restore_iff (by decide)).mp htext.1, mt (mem_restore_iff (by decide)).mp htext.2.1,
    mt (mem_restore_iff (by decide)).mp htext.2.2⟩

/-! ## Parts of a page -/

theorem quotedIf_of_append_left {condition : Prop} {html back : Text} (hless : '<' ∉ back)
    (hgreater : '>' ∉ back) (hall : QuotedIf condition (html ++ back)) :
    QuotedIf condition html := by
  have hwhole := whole_of_append hgreater hall.whole
  obtain ⟨-, hseparate, hbare, hquoted⟩ := hall
  rw [tags_append hwhole, tags_of_not_mem hless, List.append_nil] at hseparate hbare hquoted
  exact ⟨hwhole, hseparate, hbare, hquoted⟩

theorem quotedIf_of_append_right {condition : Prop} {front html : Text} (hless : '<' ∉ front)
    (hall : QuotedIf condition (front ++ html)) : QuotedIf condition html := by
  obtain ⟨hwhole, hseparate, hbare, hquoted⟩ := hall
  rw [tags_append (whole_of_not_mem hless), tags_of_not_mem hless, List.nil_append]
    at hseparate hbare hquoted
  exact ⟨whole_right_of_append hwhole, hseparate, hbare, hquoted⟩

/-- A tag that does not end before the paragraph does holds the tag that closes
it. -/
theorem whole_of_separate {html : Text}
    (hseparate : ∀ t ∈ tags (html ++ closingParagraph), '<' ∉ t.tail) : Whole html := by
  induction html using tags_induction with
  | nil => trivial
  | other c rest hc ih =>
      rw [List.cons_append, tags_cons_of_ne hc] at hseparate
      exact ⟨fun h => absurd h hc, ih hseparate⟩
  | closed name rest hname ih =>
      rw [List.append_assoc, List.cons_append] at ih
      rw [List.cons_append, List.append_assoc, List.cons_append, tags_open_append hname]
        at hseparate
      exact ⟨fun _ => by simp, ih (List.forall_mem_cons.mp hseparate).2⟩
  | unclosed rest hrest ih =>
      have hname : '>' ∉ rest ++ "</p".toList := by simp [hrest]
      have hsplit : '<' :: rest ++ closingParagraph =
          '<' :: (rest ++ "</p".toList ++ '>' :: []) := by
        rw [List.cons_append, List.append_assoc]
        rfl
      rw [hsplit, tags_open_append hname] at hseparate
      exact absurd (List.forall_mem_cons.mp hseparate).1 (by simp [tag])

theorem quotedIf_of_paragraph {condition : Prop} {html : Text}
    (hall : QuotedIf condition (openingParagraph ++ html ++ closingParagraph)) :
    QuotedIf condition html := by
  obtain ⟨-, hseparate, hbare, hquoted⟩ := hall
  have hopening : Whole openingParagraph := whole_tag (by decide)
  have htags : tags (openingParagraph ++ html ++ closingParagraph) =
      tags openingParagraph ++ tags (html ++ closingParagraph) := by
    rw [List.append_assoc, tags_append hopening]
  have hwhole : Whole html := by
    apply whole_of_separate
    rw [htags] at hseparate
    exact (List.forall_mem_append.mp hseparate).2
  have hmem : ∀ t, t ∈ tags (openingParagraph ++ html ++ closingParagraph) ↔
      t ∈ tags html ∨ t = openingParagraph ∨ t = closingParagraph := by
    have hfirst : tags openingParagraph = [openingParagraph] := by decide
    have hlast : tags closingParagraph = [closingParagraph] := by decide
    intro t
    rw [htags, tags_append hwhole, hfirst, hlast]
    simp only [List.mem_append, List.mem_singleton]
    exact or_left_comm
  refine ⟨hwhole, ?_, ?_, ?_⟩
  · exact fun t ht => hseparate t ((hmem t).mpr (.inl ht))
  · exact fun hnot t ht => hbare hnot t ((hmem t).mpr (.inl ht))
  · intro hcondition
    obtain ⟨t, ht, hquote⟩ := hquoted hcondition
    rcases (hmem t).mp ht with hinside | rfl | rfl
    · exact ⟨t, hinside, hquote⟩
    · exact absurd hquote (by decide)
    · exact absurd hquote (by decide)

theorem quotedIf_dropParagraphTags {condition : Prop} {html : Text}
    (hhtml : QuotedIf condition html) : QuotedIf condition (dropParagraphTags html) := by
  rcases dropParagraphTags_eq_or html with heq | heq
  · rwa [heq]
  · rw [heq] at hhtml
    exact quotedIf_of_paragraph hhtml

theorem quotedIf_trim {condition : Prop} {html : Text} (hhtml : QuotedIf condition html) :
    QuotedIf condition (Text.trim html) := by
  have hleading := Text.isBlank_leadingBlanks html
  have htrailing := Text.isBlank_trailingBlanks html
  rw [← Text.leadingBlanks_append_trim_append_trailingBlanks html] at hhtml
  exact quotedIf_of_append_right (hleading.not_mem rfl)
    (quotedIf_of_append_left (htrailing.not_mem rfl) (htrailing.not_mem rfl) hhtml)

/-! ## Whole values -/

theorem quotedIf_content {text : Text} (htext : '<' ∉ text) :
    QuotedIf (∃ block ∈ (Content.ofText text).blocks,
        block.HasAttribute (Content.ofText text).definitions)
      (dropParagraphTags (Text.trim (toHtml text))) := by
  have hblocks := quotedIf_ofBlocks (Content.ofText text).definitions false true _
    (Content.plain_ofText htext)
  exact quotedIf_dropParagraphTags (quotedIf_trim hblocks)

theorem tags_append_restore {condition : Prop} {html leading trailing : Text}
    (hleading : '<' ∉ leading) (htrailing : '<' ∉ trailing) (hhtml : QuotedIf condition html) :
    tags (leading ++ restore html ++ trailing) = (tags html).map restore := by
  rw [List.append_assoc, tags_append (whole_of_not_mem hleading), tags_of_not_mem hleading,
    List.nil_append, tags_append (whole_restore hhtml.whole), tags_of_not_mem htrailing,
    List.append_nil, tags_restore]

theorem tags_render {value : Text} (hvalue : '<' ∉ value) :
    tags (render value) =
      (tags (dropParagraphTags (Text.trim (toHtml (protect (Text.trim value)))))).map restore := by
  rw [render_eq]
  exact tags_append_restore ((Text.isBlank_leadingBlanks value).not_mem rfl)
    ((Text.isBlank_trailingBlanks value).not_mem rfl)
    (quotedIf_content (less_not_mem_protect_trim hvalue))

theorem forall_settled_restore_iff {condition : Prop} {html : Text}
    (hhtml : QuotedIf condition html) :
    (∀ t ∈ (tags html).map restore, Settled t) ↔ ¬ condition := by
  constructor
  · intro hsettled hcondition
    obtain ⟨t, ht, hquote⟩ := hhtml.quoted hcondition
    exact (hsettled _ (List.mem_map_of_mem ht)).no_double
      ((mem_restore_iff (by decide)).mpr hquote)
  · intro hnot restored hrestored
    obtain ⟨t, ht, rfl⟩ := List.mem_map.mp hrestored
    exact settled_of_isBare (isBare_restore (hhtml.bare hnot t ht))

end MarkdownValue

namespace Preprocessor

theorem ofNames_markdown_smartypants :
    ofNames "markdown,smartypants".toList =
      .ok (pipeline [.ofRaw render, .ofRaw smarten]) := rfl

theorem raw_markdown_smartypants (value : Text) :
    (pipeline [.ofRaw render, .ofRaw smarten]).raw value = smarten (render value) := rfl

/-- Markdown and typographic punctuation in a row keep the tags that Markdown
writes up to their punctuation.  They keep them as they are exactly if no block
of the value has a tag with attributes. -/
theorem tags_raw_eq_iff {value : Text} (hvalue : '<' ∉ value) :
    ∃ pipeline, ofNames "markdown,smartypants".toList = .ok pipeline ∧
      tags (pipeline.raw value) = (tags (render value)).map smarten ∧
      (tags (pipeline.raw value) = tags (render value) ↔
        ¬ ∃ block ∈ (Content.ofText (protect (Text.trim value))).blocks,
          block.HasAttribute (Content.ofText (protect (Text.trim value))).definitions) := by
  refine ⟨_, ofNames_markdown_smartypants, tags_smarten (render value), ?_⟩
  rw [raw_markdown_smartypants, tags_smarten_eq_self_iff, tags_render hvalue]
  exact forall_settled_restore_iff (quotedIf_content (less_not_mem_protect_trim hvalue))

/-- Emphasis is written without attributes. -/
theorem tags_raw_eq_emphasis :
    '<' ∉ "\"*a*\"".toList ∧ tags (render "\"*a*\"".toList) = ["<em>".toList, "</em>".toList] ∧
      ∃ pipeline, ofNames "markdown,smartypants".toList = .ok pipeline ∧
        tags (pipeline.raw "\"*a*\"".toList) = tags (render "\"*a*\"".toList) := by
  have hvalue : '<' ∉ "\"*a*\"".toList := by decide
  have htags : tags (render "\"*a*\"".toList) = ["<em>".toList, "</em>".toList] := by
    decide +kernel
  have hcontent : Content.ofText (protect (Text.trim "\"*a*\"".toList)) =
      ⟨[.paragraph "\"*a*\"".toList], []⟩ := rfl
  have helements : Inline.ofText [] "\"*a*\"".toList =
      [.text ['“'], .opening .emphasis, .text ['a'], .closing .emphasis, .text ['”']] := rfl
  obtain ⟨pipeline, hpipeline, -, hiff⟩ := tags_raw_eq_iff hvalue
  refine ⟨hvalue, htags, pipeline, hpipeline, hiff.mpr ?_⟩
  rw [hcontent]
  rintro ⟨block, hblock, hattribute⟩
  obtain rfl := List.mem_singleton.mp hblock
  rw [Block.hasAttribute_paragraph_iff, Inline.AnyHasAttribute, helements] at hattribute
  simp [Inline.HasAttribute] at hattribute

/-- The quotes around the address of a link are curled. -/
theorem not_forall_tags_raw_eq :
    render "[a](b)".toList = "<a href=\"b\">a</a>".toList ∧
      smarten "<a href=\"b\">a</a>".toList = "<a href=”b”>a</a>".toList ∧
      ¬ ∀ value, '<' ∉ value → ∃ pipeline,
        ofNames "markdown,smartypants".toList = .ok pipeline ∧
          tags (pipeline.raw value) = tags (render value) := by
  have hrender : render "[a](b)".toList = "<a href=\"b\">a</a>".toList := by decide +kernel
  refine ⟨hrender, by decide, ?_⟩
  intro hall
  obtain ⟨other, hother, heq⟩ := hall "[a](b)".toList (by decide)
  rw [ofNames_markdown_smartypants] at hother
  obtain rfl := Except.ok.inj hother
  rw [raw_markdown_smartypants, hrender] at heq
  exact absurd heq (by decide)

end Preprocessor

end MessageCatalog
