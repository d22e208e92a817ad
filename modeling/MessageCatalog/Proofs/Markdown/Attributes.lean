import MessageCatalog.Proofs.Markdown.Html
import MessageCatalog.Proofs.Markdown.TagList

/-!
# Attributes

Most tags that plain blocks are written with hold only a name.  Attributes are
written for links and images, for code in a language of its own, and for lists
that do not count from one, and each of them is put between quotes.  So it can
be told from the blocks whether there is a quote in some tag, and if there is
none, no tag holds anything that typographic punctuation would change.
-/

namespace MessageCatalog

namespace Markdown

/-- The tag of the element has attributes. -/
def Inline.HasAttribute : Inline → Prop
  | .opening (.link _ _) => True
  | .image _ _ _ => True
  | _ => False

/-- Some element of the running text has attributes. -/
def Inline.AnyHasAttribute (definitions : List Definition) (text : Text) : Prop :=
  ∃ element ∈ Inline.ofText definitions text, element.HasAttribute

/-- Some tag that the block is written with has attributes. -/
inductive Block.HasAttribute (definitions : List Definition) : Block → Prop
  | paragraph {text : Text} (htext : Inline.AnyHasAttribute definitions text) :
      HasAttribute definitions (.paragraph text)
  | heading (level : Nat) {text : Text} (htext : Inline.AnyHasAttribute definitions text) :
      HasAttribute definitions (.heading level text)
  | code {language : Text} (text : Text) (hlanguage : language ≠ []) :
      HasAttribute definitions (.code language text)
  | quote {blocks : List Block} {block : Block} (hmem : block ∈ blocks)
      (hblock : HasAttribute definitions block) : HasAttribute definitions (.quote blocks)
  | start {start : Nat} (isTight : Bool) (items : List (List Block)) (hstart : start ≠ 1) :
      HasAttribute definitions (.list (some start) isTight items)
  | item (start : Option Nat) (isTight : Bool) {items : List (List Block)} {item : List Block}
      {block : Block} (hitem : item ∈ items) (hmem : block ∈ item)
      (hblock : HasAttribute definitions block) :
      HasAttribute definitions (.list start isTight items)

section Blocks

variable {definitions : List Definition}

theorem Block.hasAttribute_paragraph_iff {text : Text} :
    (Block.paragraph text).HasAttribute definitions ↔ Inline.AnyHasAttribute definitions text := by
  constructor
  · rintro ⟨htext⟩
    exact htext
  · exact .paragraph

theorem Block.hasAttribute_heading_iff {level : Nat} {text : Text} :
    (Block.heading level text).HasAttribute definitions ↔
      Inline.AnyHasAttribute definitions text := by
  constructor
  · rintro ⟨⟩
    assumption
  · exact .heading level

theorem Block.hasAttribute_code_iff {language text : Text} :
    (Block.code language text).HasAttribute definitions ↔ language ≠ [] := by
  constructor
  · rintro ⟨⟩
    assumption
  · exact .code text

theorem Block.not_hasAttribute_rule : ¬ Block.rule.HasAttribute definitions := nofun

theorem Block.hasAttribute_quote_iff {blocks : List Block} :
    (Block.quote blocks).HasAttribute definitions ↔
      ∃ block ∈ blocks, block.HasAttribute definitions := by
  constructor
  · intro hquote
    cases hquote with
    | quote hmem hblock => exact ⟨_, hmem, hblock⟩
  · rintro ⟨block, hmem, hblock⟩
    exact .quote hmem hblock

theorem Block.hasAttribute_list_iff {start : Option Nat} {isTight : Bool}
    {items : List (List Block)} :
    (Block.list start isTight items).HasAttribute definitions ↔
      (∃ n, start = some n ∧ n ≠ 1) ∨
        ∃ item ∈ items, ∃ block ∈ item, block.HasAttribute definitions := by
  constructor
  · intro hlist
    cases hlist with
    | start _ _ hstart => exact .inl ⟨_, rfl, hstart⟩
    | item _ _ hitem hmem hblock => exact .inr ⟨_, hitem, _, hmem, hblock⟩
  · rintro (⟨n, rfl, hstart⟩ | ⟨item, hitem, block, hmem, hblock⟩)
    · exact .start isTight items hstart
    · exact .item start isTight hitem hmem hblock

end Blocks

namespace Html

/-- No quote and no dot. -/
def IsBare (t : Text) : Prop := '\'' ∉ t ∧ '"' ∉ t ∧ '.' ∉ t

instance (t : Text) : Decidable (IsBare t) :=
  inferInstanceAs (Decidable ('\'' ∉ t ∧ '"' ∉ t ∧ '.' ∉ t))

theorem IsBare.append {left right : Text} (hleft : IsBare left) (hright : IsBare right) :
    IsBare (left ++ right) := by
  obtain ⟨hsingle, hdouble, hdot⟩ := hleft
  obtain ⟨hsingle', hdouble', hdot'⟩ := hright
  unfold IsBare
  simp only [List.mem_append, not_or]
  exact ⟨⟨hsingle, hsingle'⟩, ⟨hdouble, hdouble'⟩, ⟨hdot, hdot'⟩⟩

/-- In whole tags, none of which holds another, there is a double quote exactly
under the condition, and without it there are no quotes and no dots at all. -/
structure QuotedIf (condition : Prop) (html : Text) : Prop where
  whole : Whole html
  separate : ∀ t ∈ tags html, '<' ∉ t.tail
  bare : ¬ condition → ∀ t ∈ tags html, IsBare t
  quoted : condition → ∃ t ∈ tags html, '"' ∈ t

theorem QuotedIf.congr {condition other : Prop} (hiff : condition ↔ other) {html : Text}
    (hhtml : QuotedIf condition html) : QuotedIf other html := by
  rwa [← propext hiff]

theorem QuotedIf.append {condition other : Prop} {left right : Text}
    (hleft : QuotedIf condition left) (hright : QuotedIf other right) :
    QuotedIf (condition ∨ other) (left ++ right) where
  whole := hleft.whole.append hright.whole
  separate := by
    rw [tags_append hleft.whole]
    exact List.forall_mem_append.mpr ⟨hleft.separate, hright.separate⟩
  bare := by
    intro hneither
    obtain ⟨hnot, hnot'⟩ := not_or.mp hneither
    rw [tags_append hleft.whole]
    exact List.forall_mem_append.mpr ⟨hleft.bare hnot, hright.bare hnot'⟩
  quoted := by
    rw [tags_append hleft.whole]
    rintro (hcondition | hother)
    · obtain ⟨t, ht, hquote⟩ := hleft.quoted hcondition
      exact ⟨t, List.mem_append_left _ ht, hquote⟩
    · obtain ⟨t, ht, hquote⟩ := hright.quoted hother
      exact ⟨t, List.mem_append_right _ ht, hquote⟩

/-- Whole tags without quotes and dots. -/
def HasBareTags (html : Text) : Prop :=
  Whole html ∧ ∀ t ∈ tags html, '<' ∉ t.tail ∧ IsBare t

instance (html : Text) : Decidable (HasBareTags html) :=
  inferInstanceAs (Decidable (Whole html ∧ ∀ t ∈ tags html, '<' ∉ t.tail ∧ IsBare t))

theorem quotedIf_of_hasBareTags (html : Text) (hhtml : HasBareTags html) :
    QuotedIf False html where
  whole := hhtml.1
  separate := fun t ht => (hhtml.2 t ht).1
  bare := fun _ t ht => (hhtml.2 t ht).2
  quoted := False.elim

theorem HasBareTags.surround {condition : Prop} {front html back : Text}
    (hfront : HasBareTags front) (hhtml : QuotedIf condition html) (hback : HasBareTags back) :
    QuotedIf condition (front ++ html ++ back) := by
  have hall := ((quotedIf_of_hasBareTags front hfront).append hhtml).append
    (quotedIf_of_hasBareTags back hback)
  exact hall.congr (by rw [false_or, or_false])

theorem hasBareTags_of_not_mem {html : Text} (hhtml : '<' ∉ html) : HasBareTags html := by
  refine ⟨whole_of_not_mem hhtml, ?_⟩
  rw [tags_of_not_mem hhtml]
  exact List.forall_mem_nil _

theorem hasBareTags_tag {name : Text} (hopening : '<' ∉ name) (hclosing : '>' ∉ name)
    (hname : IsBare name) : HasBareTags (tag name) := by
  refine ⟨whole_tag hopening, ?_⟩
  rw [tags_tag hopening hclosing, List.forall_mem_singleton]
  have hless : IsBare ['<'] := by decide
  have hgreater : IsBare ['>'] := by decide
  exact ⟨by simp [tag, hopening], hless.append (hname.append hgreater)⟩

theorem quotedIf_tag {name : Text} (hopening : '<' ∉ name) (hclosing : '>' ∉ name)
    (hquote : '"' ∈ name) : QuotedIf True (tag name) where
  whole := whole_tag hopening
  separate := by
    rw [tags_tag hopening hclosing, List.forall_mem_singleton]
    simp [tag, hopening]
  bare := fun hnot => (hnot trivial).elim
  quoted := by
    rw [tags_tag hopening hclosing]
    intro _
    exact ⟨tag name, List.mem_singleton_self _,
      List.mem_cons_of_mem _ (List.mem_append_left _ hquote)⟩

/-! ## Running text -/

theorem quotedIf_openingTag (span : Span) :
    QuotedIf (Inline.opening span).HasAttribute (openingTag span) := by
  cases span with
  | emphasis => exact quotedIf_of_hasBareTags "<em>".toList (by decide)
  | strong => exact quotedIf_of_hasBareTags "<strong>".toList (by decide)
  | strikethrough => exact quotedIf_of_hasBareTags "<del>".toList (by decide)
  | link destination title =>
      have hquote : '"' ∈ linkName destination title :=
        List.mem_append_left _ (List.mem_append_right _ List.mem_cons_self)
      exact quotedIf_tag (not_mem_linkName (.inl rfl) destination title)
        (not_mem_linkName (.inr rfl) destination title) hquote

theorem quotedIf_closingTag (span : Span) :
    QuotedIf (Inline.closing span).HasAttribute (closingTag span) := by
  cases span with
  | emphasis => exact quotedIf_of_hasBareTags "</em>".toList (by decide)
  | strong => exact quotedIf_of_hasBareTags "</strong>".toList (by decide)
  | strikethrough => exact quotedIf_of_hasBareTags "</del>".toList (by decide)
  | link destination title => exact quotedIf_of_hasBareTags "</a>".toList (by decide)

theorem quotedIf_ofInline {element : Inline} (helement : element.Plain) :
    QuotedIf element.HasAttribute (ofInline element) := by
  cases element with
  | text t =>
      exact quotedIf_of_hasBareTags _ (hasBareTags_of_not_mem (not_mem_escapeText (.inl rfl) t))
  | code t =>
      have htext := hasBareTags_of_not_mem (not_mem_escapeText (.inl rfl) t)
      have hopening : HasBareTags "<code>".toList := by decide
      have hclosing : HasBareTags "</code>".toList := by decide
      exact hopening.surround (quotedIf_of_hasBareTags _ htext) hclosing
  | html t => exact helement.elim
  | softBreak => exact quotedIf_of_hasBareTags ['\n'] (by decide)
  | hardBreak => exact quotedIf_of_hasBareTags "<br />\n".toList (by decide)
  | opening span => exact quotedIf_openingTag span
  | closing span => exact quotedIf_closingTag span
  | image destination title description =>
      have hquote : '"' ∈ imageName destination title description :=
        List.mem_append_left _ (List.mem_append_left _ (List.mem_append_right _
          List.mem_cons_self))
      rw [ofInline_image]
      exact quotedIf_tag (not_mem_imageName (.inl rfl) _ _ _) (not_mem_imageName (.inr rfl) _ _ _)
        hquote

theorem quotedIf_flatMap {α : Type} {write : α → Text} {condition : α → Prop} {items : List α}
    (hitems : ∀ item ∈ items, QuotedIf (condition item) (write item)) :
    QuotedIf (∃ item ∈ items, condition item) (items.flatMap write) := by
  induction items with
  | nil => exact (quotedIf_of_hasBareTags [] (by decide)).congr (by simp)
  | cons item items ih =>
      obtain ⟨hitem, hrest⟩ := List.forall_mem_cons.mp hitems
      rw [List.flatMap_cons]
      exact (hitem.append (ih hrest)).congr (by simp)

theorem quotedIf_ofText (definitions : List Definition) {text : Text} (htext : '<' ∉ text) :
    QuotedIf (Inline.AnyHasAttribute definitions text) (ofText definitions text) :=
  quotedIf_flatMap fun element helement =>
    quotedIf_ofInline (Inline.plain_ofText definitions htext element helement)

/-! ## Blocks -/

theorem QuotedIf.onNewLine {condition : Prop} {html : Text} (hhtml : QuotedIf condition html)
    (atLineStart : Bool) : QuotedIf condition (onNewLine atLineStart html) := by
  unfold Html.onNewLine
  split
  · exact hhtml
  · have hbreak := quotedIf_of_hasBareTags ['\n'] (by decide)
    exact (hbreak.append hhtml).congr (by rw [false_or])

theorem isBare_ofNat (n : Nat) : IsBare (Text.ofNat n) :=
  ⟨Text.not_mem_ofNat (by decide) n, Text.not_mem_ofNat (by decide) n,
    Text.not_mem_ofNat (by decide) n⟩

theorem hasBareTags_numberedTag {front : Text} (hfront : IsBare front) (hless : '<' ∉ front)
    (hgreater : '>' ∉ front) (n : Nat) : HasBareTags (tag (front ++ Text.ofNat n)) := by
  have hopening : '<' ∉ Text.ofNat n := Text.not_mem_ofNat (by decide) n
  have hclosing : '>' ∉ Text.ofNat n := Text.not_mem_ofNat (by decide) n
  apply hasBareTags_tag
  · simp [hless, hopening]
  · simp [hgreater, hclosing]
  · exact hfront.append (isBare_ofNat n)

theorem quotedIf_ofHeading {condition : Prop} {html : Text} (hhtml : QuotedIf condition html)
    (level : Nat) : QuotedIf condition (ofHeading level html) := by
  have hopening : HasBareTags (tag (['h'] ++ Text.ofNat level)) :=
    hasBareTags_numberedTag (by decide) (by decide) (by decide) level
  have hclosing : HasBareTags (tag (['/', 'h'] ++ Text.ofNat level)) :=
    hasBareTags_numberedTag (by decide) (by decide) (by decide) level
  have hend := quotedIf_of_hasBareTags ['\n'] (by decide)
  rw [ofHeading_eq]
  exact ((hopening.surround hhtml hclosing).append hend).congr (by rw [or_false])

theorem quotedIf_codeName (language : Text) : QuotedIf True (tag (codeName language)) := by
  have hfixed : ∀ {bracket}, IsBracket bracket → bracket ∉ codeName language := by
    intro bracket hbracket
    unfold codeName
    simp only [List.mem_append, not_or]
    exact ⟨⟨hbracket.not_mem (by decide) (by decide), not_mem_escapeValue hbracket language⟩,
      hbracket.not_mem (by decide) (by decide)⟩
  exact quotedIf_tag (hfixed (.inl rfl)) (hfixed (.inr rfl))
    (List.mem_append_right _ List.mem_cons_self)

theorem quotedIf_listName (start : Nat) : QuotedIf True (tag (listName start)) := by
  have hfixed : ∀ {bracket}, IsBracket bracket → bracket ∉ listName start := by
    intro bracket hbracket
    unfold listName
    simp only [List.mem_append, not_or]
    exact ⟨⟨hbracket.not_mem (by decide) (by decide),
      hbracket.not_mem (Text.not_mem_ofNat (by decide) start)
        (Text.not_mem_ofNat (by decide) start)⟩, hbracket.not_mem (by decide) (by decide)⟩
  exact quotedIf_tag (hfixed (.inl rfl)) (hfixed (.inr rfl))
    (List.mem_append_right _ List.mem_cons_self)

theorem quotedIf_ofCode (language text : Text) :
    QuotedIf (language ≠ []) (ofCode language text) := by
  have hopening : QuotedIf (language ≠ []) (if language.isEmpty then "<pre><code>".toList
      else "<pre><code class=\"language-".toList ++ escapeValue language ++ "\">".toList) := by
    split
    · next hempty =>
        have hnil : language = [] := List.isEmpty_iff.mp hempty
        exact (quotedIf_of_hasBareTags "<pre><code>".toList (by decide)).congr (by simp [hnil])
    · next hne =>
        have hsome : language ≠ [] := fun hnil => hne (List.isEmpty_iff.mpr hnil)
        have hfront := quotedIf_of_hasBareTags "<pre>".toList (by decide)
        rw [codeTag_eq]
        exact (hfront.append (quotedIf_codeName language)).congr (by simp [hsome])
  have htext := hasBareTags_of_not_mem (not_mem_escapeText (.inl rfl) text)
  have hclosing := quotedIf_of_hasBareTags "</code></pre>\n".toList (by decide)
  exact ((hopening.append (quotedIf_of_hasBareTags _ htext)).append hclosing).congr
    (by rw [or_false, or_false])

theorem quotedIf_listTags (start : Option Nat) :
    QuotedIf (∃ n, start = some n ∧ n ≠ 1) (listTags start).1 ∧
      HasBareTags (listTags start).2 := by
  unfold listTags
  split
  · refine ⟨(quotedIf_of_hasBareTags "<ul>\n".toList (by decide)).congr (by simp), by decide⟩
  · refine ⟨(quotedIf_of_hasBareTags "<ol>\n".toList (by decide)).congr (by simp), by decide⟩
  · next start hstart =>
      have hend := quotedIf_of_hasBareTags ['\n'] (by decide)
      have hclosing : HasBareTags "</ol>\n".toList := by decide
      refine ⟨?_, hclosing⟩
      rw [listTag_eq]
      exact ((quotedIf_listName start).append hend).congr (by simpa using hstart)

mutual

theorem quotedIf_ofBlock (definitions : List Definition) (isTight atLineStart : Bool) :
    (block : Block) → block.Plain →
      QuotedIf (block.HasAttribute definitions) (ofBlock definitions isTight atLineStart block)
  | .paragraph text, hblock => by
      obtain ⟨htext⟩ := hblock
      have hinner := quotedIf_ofText definitions htext
      rw [ofBlock]
      split
      · exact hinner.congr Block.hasAttribute_paragraph_iff.symm
      · have hopening : HasBareTags "<p>".toList := by decide
        have hclosing : HasBareTags "</p>\n".toList := by decide
        exact ((hopening.surround hinner hclosing).congr
          Block.hasAttribute_paragraph_iff.symm).onNewLine _
  | .heading level text, hblock => by
      cases hblock with
      | heading _ htext =>
          exact ((quotedIf_ofHeading (quotedIf_ofText definitions htext) level).congr
            Block.hasAttribute_heading_iff.symm).onNewLine _
  | .rule, _ => by
      have hrule := quotedIf_of_hasBareTags "<hr />\n".toList (by decide)
      exact (hrule.congr (iff_of_false id Block.not_hasAttribute_rule)).onNewLine _
  | .code language text, _ =>
      ((quotedIf_ofCode language text).congr Block.hasAttribute_code_iff.symm).onNewLine _
  | .quote blocks, hblock => by
      cases hblock with
      | quote hblocks =>
          have hinner := quotedIf_ofBlocks definitions false true blocks hblocks
          have hopening : HasBareTags "<blockquote>\n".toList := by decide
          have hclosing : HasBareTags "</blockquote>\n".toList := by decide
          exact ((hopening.surround hinner hclosing).congr
            Block.hasAttribute_quote_iff.symm).onNewLine _
  | .list start isTight items, hblock => by
      cases hblock with
      | list _ _ hitems =>
          have hinner := quotedIf_ofItems definitions isTight items hitems
          obtain ⟨hopening, hclosing⟩ := quotedIf_listTags start
          have hall := (hopening.append hinner).append (quotedIf_of_hasBareTags _ hclosing)
          exact (hall.congr (by rw [or_false, Block.hasAttribute_list_iff])).onNewLine _

theorem quotedIf_ofBlocks (definitions : List Definition) (isTight atLineStart : Bool) :
    (blocks : List Block) → (∀ block ∈ blocks, block.Plain) →
      QuotedIf (∃ block ∈ blocks, block.HasAttribute definitions)
        (ofBlocks definitions isTight atLineStart blocks)
  | [], _ => (quotedIf_of_hasBareTags [] (by decide)).congr (by simp)
  | block :: rest, hblocks => by
      have hfirst := quotedIf_ofBlock definitions isTight atLineStart block
        (hblocks block List.mem_cons_self)
      have hrest := quotedIf_ofBlocks definitions isTight
        (endsLine atLineStart (ofBlock definitions isTight atLineStart block)) rest
        fun other hother => hblocks other (List.mem_cons_of_mem block hother)
      exact (hfirst.append hrest).congr (by simp)

theorem quotedIf_ofItems (definitions : List Definition) (isTight : Bool) :
    (items : List (List Block)) → (∀ item ∈ items, ∀ block ∈ item, block.Plain) →
      QuotedIf (∃ item ∈ items, ∃ block ∈ item, block.HasAttribute definitions)
        (ofItems definitions isTight items)
  | [], _ => (quotedIf_of_hasBareTags [] (by decide)).congr (by simp)
  | item :: rest, hitems => by
      have hopening : HasBareTags "<li>".toList := by decide
      have hclosing : HasBareTags "</li>\n".toList := by decide
      have hfirst := hopening.surround
        (quotedIf_ofBlocks definitions isTight false item (hitems item List.mem_cons_self)) hclosing
      have hrest := quotedIf_ofItems definitions isTight rest
        fun other hother => hitems other (List.mem_cons_of_mem item hother)
      exact (hfirst.append hrest).congr (by simp)

end

end Html

end Markdown

end MessageCatalog
