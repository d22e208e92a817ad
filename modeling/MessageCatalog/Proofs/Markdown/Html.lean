import MessageCatalog.Markdown.Html
import MessageCatalog.Proofs.Markdown.Block
import MessageCatalog.Proofs.Markdown.Inline
import MessageCatalog.Proofs.Markdown.Tags
import MessageCatalog.Proofs.Text.Decimal

/-!
# HTML with balanced paragraphs

The HTML of plain blocks is whole and leaves as many paragraphs open as were
open before it: only paragraphs that are set apart write paragraph tags, two of
them around text that holds none.
A block that begins a line ends one, and the tags at its ends show whether it is
a paragraph.
-/

namespace MessageCatalog

namespace Markdown

namespace Html

theorem not_mem_escapeWith {c : Char} {escape : Char → Text} (hescape : ∀ d, c ∉ escape d)
    (text : Text) : c ∉ Text.escapeWith escape text := by
  intro hmem
  obtain ⟨d, -, hd⟩ := List.mem_flatMap.mp hmem
  exact hescape d hd

/-- The characters that a tag begins and ends with. -/
def IsBracket (c : Char) : Prop := c = '<' ∨ c = '>'

section Brackets

variable {bracket : Char}

theorem IsBracket.not_mem (hbracket : IsBracket bracket) {text : Text} (hless : '<' ∉ text)
    (hgreater : '>' ∉ text) : bracket ∉ text :=
  hbracket.elim (fun h => h ▸ hless) fun h => h ▸ hgreater

theorem not_mem_escapeTextChar (hbracket : IsBracket bracket) (c : Char) :
    bracket ∉ escapeTextChar c := by
  unfold escapeTextChar
  split_ifs with hand hless hgreater
  · exact hbracket.not_mem (by decide) (by decide)
  · exact hbracket.not_mem (by decide) (by decide)
  · exact hbracket.not_mem (by decide) (by decide)
  · rw [List.mem_singleton]
    rintro rfl
    exact hbracket.elim hless hgreater

theorem not_mem_escapeText (hbracket : IsBracket bracket) (text : Text) :
    bracket ∉ escapeText text :=
  not_mem_escapeWith (not_mem_escapeTextChar hbracket) text

theorem not_mem_escapeValue (hbracket : IsBracket bracket) (text : Text) :
    bracket ∉ escapeValue text := by
  apply not_mem_escapeWith
  intro c
  unfold escapeValueChar
  split_ifs
  · exact hbracket.not_mem (by decide) (by decide)
  · exact hbracket.not_mem (by decide) (by decide)
  · exact not_mem_escapeTextChar hbracket c

theorem not_mem_percentEncode (hbracket : IsBracket bracket) (byte : UInt8) :
    bracket ∉ percentEncode byte := by
  have hdigit : ∀ n < 16, (Nat.digitChar n).toUpper ≠ '<' ∧ (Nat.digitChar n).toUpper ≠ '>' := by
    decide
  have hbyte : byte.toNat < 256 := byte.toNat_lt
  have hfirst := hdigit (byte.toNat / 16) (by omega)
  have hsecond := hdigit (byte.toNat % 16) (by omega)
  rcases hbracket with rfl | rfl
  · simp [percentEncode, Ne.symm hfirst.1, Ne.symm hsecond.1]
  · simp [percentEncode, Ne.symm hfirst.2, Ne.symm hsecond.2]

theorem not_mem_escapeAddress (hbracket : IsBracket bracket) (text : Text) :
    bracket ∉ escapeAddress text := by
  apply not_mem_escapeWith
  intro c
  unfold escapeAddressChar
  split_ifs with haddress hand hquote
  · rw [List.mem_singleton]
    rintro rfl
    rcases hbracket with rfl | rfl
    · exact absurd haddress (by decide)
    · exact absurd haddress (by decide)
  · exact hbracket.not_mem (by decide) (by decide)
  · exact hbracket.not_mem (by decide) (by decide)
  · intro hmem
    obtain ⟨byte, -, hbyte⟩ := List.mem_flatMap.mp hmem
    exact not_mem_percentEncode hbracket byte hbyte

theorem not_mem_titleAttribute (hbracket : IsBracket bracket) (title : Text) :
    bracket ∉ titleAttribute title := by
  have hfront : bracket ∉ " title=\"".toList := hbracket.not_mem (by decide) (by decide)
  have hback : bracket ∉ ['"'] := hbracket.not_mem (by decide) (by decide)
  unfold titleAttribute
  split_ifs
  · exact List.not_mem_nil
  · simp only [List.mem_append, not_or]
    exact ⟨⟨hfront, not_mem_escapeValue hbracket title⟩, hback⟩

end Brackets

/-! ## Running text -/

def linkName (destination title : Text) : Text :=
  "a href=\"".toList ++ escapeAddress destination ++ ['"'] ++ titleAttribute title

def imageName (destination title description : Text) : Text :=
  "img src=\"".toList ++ escapeAddress destination ++ "\" alt=\"".toList
    ++ escapeValue description ++ ['"'] ++ titleAttribute title ++ " /".toList

theorem not_mem_linkName {bracket : Char} (hbracket : IsBracket bracket)
    (destination title : Text) : bracket ∉ linkName destination title := by
  have hfront : bracket ∉ "a href=\"".toList := hbracket.not_mem (by decide) (by decide)
  have hback : bracket ∉ ['"'] := hbracket.not_mem (by decide) (by decide)
  unfold linkName
  simp only [List.mem_append, not_or]
  exact ⟨⟨⟨hfront, not_mem_escapeAddress hbracket destination⟩, hback⟩,
    not_mem_titleAttribute hbracket title⟩

theorem not_mem_imageName {bracket : Char} (hbracket : IsBracket bracket)
    (destination title description : Text) :
    bracket ∉ imageName destination title description := by
  have hfront : bracket ∉ "img src=\"".toList := hbracket.not_mem (by decide) (by decide)
  have hmiddle : bracket ∉ "\" alt=\"".toList := hbracket.not_mem (by decide) (by decide)
  have hquote : bracket ∉ ['"'] := hbracket.not_mem (by decide) (by decide)
  have hback : bracket ∉ " /".toList := hbracket.not_mem (by decide) (by decide)
  unfold imageName
  simp only [List.mem_append, not_or]
  exact ⟨⟨⟨⟨⟨⟨hfront, not_mem_escapeAddress hbracket destination⟩, hmiddle⟩,
    not_mem_escapeValue hbracket description⟩, hquote⟩,
    not_mem_titleAttribute hbracket title⟩, hback⟩

theorem ofInline_image (destination title description : Text) :
    ofInline (.image destination title description) =
      tag (imageName destination title description) := by
  have hopening : "<img src=\"".toList = '<' :: "img src=\"".toList := rfl
  have hclosing : " />".toList = " /".toList ++ ['>'] := rfl
  unfold ofInline imageName tag
  rw [hopening, hclosing]
  simp only [List.append_assoc, List.cons_append]

theorem leads_openingTag (span : Span) (n : Nat) : Leads n n (openingTag span) := by
  cases span with
  | emphasis => exact leads_of_isNeutral "<em>".toList (by decide) n
  | strong => exact leads_of_isNeutral "<strong>".toList (by decide) n
  | strikethrough => exact leads_of_isNeutral "<del>".toList (by decide) n
  | link destination title =>
      have hhead : (linkName destination title).head? = some 'a' := rfl
      exact leads_tag_of_head? hhead (by decide) (by decide)
        (not_mem_linkName (.inl rfl) destination title) n

theorem leads_closingTag (span : Span) (n : Nat) : Leads n n (closingTag span) := by
  cases span with
  | emphasis => exact leads_of_isNeutral "</em>".toList (by decide) n
  | strong => exact leads_of_isNeutral "</strong>".toList (by decide) n
  | strikethrough => exact leads_of_isNeutral "</del>".toList (by decide) n
  | link destination title => exact leads_of_isNeutral "</a>".toList (by decide) n

theorem leads_ofInline {element : Inline} (helement : element.Plain) (n : Nat) :
    Leads n n (ofInline element) := by
  cases element with
  | text t => exact leads_of_not_mem (not_mem_escapeText (.inl rfl) t) n
  | code t =>
      have htext := leads_of_not_mem (not_mem_escapeText (.inl rfl) t) n
      exact ((leads_of_isNeutral "<code>".toList (by decide) n).append htext).append
        (leads_of_isNeutral "</code>".toList (by decide) n)
  | html t => exact helement.elim
  | softBreak => exact leads_of_isNeutral ['\n'] (by decide) n
  | hardBreak => exact leads_of_isNeutral "<br />\n".toList (by decide) n
  | opening span => exact leads_openingTag span n
  | closing span => exact leads_closingTag span n
  | image destination title description =>
      have hhead : (imageName destination title description).head? = some 'i' := rfl
      rw [ofInline_image]
      exact leads_tag_of_head? hhead (by decide) (by decide) (not_mem_imageName (.inl rfl) _ _ _) n

theorem leads_ofText (definitions : List Definition) {text : Text} (htext : '<' ∉ text) (n : Nat) :
    Leads n n (ofText definitions text) := by
  have helements := Inline.plain_ofText definitions htext
  unfold ofText
  generalize Inline.ofText definitions text = elements at helements
  induction elements with
  | nil => exact leads_of_not_mem List.not_mem_nil n
  | cons element elements ih =>
      obtain ⟨helement, hrest⟩ := List.forall_mem_cons.mp helements
      rw [List.flatMap_cons]
      exact (leads_ofInline helement n).append (ih hrest)

/-! ## Blocks -/

theorem Leads.onNewLine {before after : Nat} {html : Text} (hhtml : Leads before after html)
    (atLineStart : Bool) : Leads before after (onNewLine atLineStart html) := by
  unfold Html.onNewLine
  split
  · exact hhtml
  · exact (leads_of_isNeutral ['\n'] (by decide) before).append hhtml

theorem leads_paragraph {html : Text} {n : Nat} (hhtml : Leads (n + 1) (n + 1) html) :
    Leads n n ("<p>".toList ++ html ++ "</p>\n".toList) := by
  have hclosing := (leads_closingParagraph n).append (leads_of_isNeutral ['\n'] (by decide) n)
  exact ((leads_openingParagraph n).append hhtml).append hclosing

theorem ofHeading_eq (level : Nat) (html : Text) :
    ofHeading level html = tag ('h' :: Text.ofNat level) ++ html
      ++ tag ('/' :: 'h' :: Text.ofNat level) ++ ['\n'] := by
  have hfront : "<h".toList = ['<', 'h'] := rfl
  have hmiddle : "</h".toList = ['<', '/', 'h'] := rfl
  have hback : ">\n".toList = ['>'] ++ ['\n'] := rfl
  unfold ofHeading tag
  rw [hfront, hmiddle, hback]
  simp only [List.append_assoc, List.cons_append, List.nil_append]

theorem leads_ofHeading (level : Nat) {html : Text} {n : Nat} (hhtml : Leads n n html) :
    Leads n n (ofHeading level html) := by
  have hdigits : '<' ∉ Text.ofNat level := Text.not_mem_ofNat (by decide) level
  have hopening : Leads n n (tag ('h' :: Text.ofNat level)) :=
    leads_tag_of_head? rfl (by decide) (by decide) (by simp [hdigits]) n
  have hclosing : Leads n n (tag ('/' :: 'h' :: Text.ofNat level)) := by
    refine leads_tag (by simp [hdigits]) ?_ ?_ n <;> simp [List.cons_prefix_cons]
  rw [ofHeading_eq]
  exact ((hopening.append hhtml).append hclosing).append (leads_of_isNeutral ['\n'] (by decide) n)

def codeName (language : Text) : Text :=
  "code class=\"language-".toList ++ escapeValue language ++ ['"']

def listName (start : Nat) : Text := "ol start=\"".toList ++ Text.ofNat start ++ ['"']

theorem leads_codeName (language : Text) (n : Nat) : Leads n n (tag (codeName language)) := by
  have hhead : (codeName language).head? = some 'c' := rfl
  refine leads_tag_of_head? hhead (by decide) (by decide) ?_ n
  unfold codeName
  simp only [List.mem_append, not_or]
  exact ⟨⟨by decide, not_mem_escapeValue (.inl rfl) language⟩, by decide⟩

theorem leads_listName (start n : Nat) : Leads n n (tag (listName start)) := by
  have hhead : (listName start).head? = some 'o' := rfl
  refine leads_tag_of_head? hhead (by decide) (by decide) ?_ n
  unfold listName
  simp only [List.mem_append, not_or]
  exact ⟨⟨by decide, Text.not_mem_ofNat (by decide) start⟩, by decide⟩

theorem codeTag_eq (language : Text) :
    "<pre><code class=\"language-".toList ++ escapeValue language ++ "\">".toList =
      "<pre>".toList ++ tag (codeName language) := by
  have hfront : "<pre><code class=\"language-".toList =
      "<pre>".toList ++ '<' :: "code class=\"language-".toList := rfl
  have hback : "\">".toList = ['"'] ++ ['>'] := rfl
  unfold codeName tag
  rw [hfront, hback]
  simp only [List.append_assoc, List.cons_append]

theorem listTag_eq (start : Nat) :
    "<ol start=\"".toList ++ Text.ofNat start ++ "\">\n".toList =
      tag (listName start) ++ ['\n'] := by
  have hfront : "<ol start=\"".toList = '<' :: "ol start=\"".toList := rfl
  have hback : "\">\n".toList = ['"'] ++ ['>'] ++ ['\n'] := rfl
  unfold listName tag
  rw [hfront, hback]
  simp only [List.append_assoc, List.cons_append]

theorem leads_ofCode (language text : Text) (n : Nat) : Leads n n (ofCode language text) := by
  have hopening : Leads n n (if language.isEmpty then "<pre><code>".toList
      else "<pre><code class=\"language-".toList ++ escapeValue language ++ "\">".toList) := by
    split
    · exact leads_of_isNeutral "<pre><code>".toList (by decide) n
    · rw [codeTag_eq]
      exact (leads_of_isNeutral "<pre>".toList (by decide) n).append (leads_codeName language n)
  exact (hopening.append (leads_of_not_mem (not_mem_escapeText (.inl rfl) text) n)).append
    (leads_of_isNeutral "</code></pre>\n".toList (by decide) n)

theorem leads_listTags (start : Option Nat) (n : Nat) :
    Leads n n (listTags start).1 ∧ Leads n n (listTags start).2 := by
  have hclosing := leads_of_isNeutral "</ol>\n".toList (by decide) n
  unfold listTags
  split
  · exact ⟨leads_of_isNeutral "<ul>\n".toList (by decide) n,
      leads_of_isNeutral "</ul>\n".toList (by decide) n⟩
  · exact ⟨leads_of_isNeutral "<ol>\n".toList (by decide) n, hclosing⟩
  · next start _ =>
      refine ⟨?_, hclosing⟩
      rw [listTag_eq]
      exact (leads_listName start n).append (leads_of_isNeutral ['\n'] (by decide) n)

mutual

theorem leads_ofBlock (definitions : List Definition) (isTight atLineStart : Bool) (n : Nat) :
    (block : Block) → block.Plain → Leads n n (ofBlock definitions isTight atLineStart block)
  | .paragraph text, hblock => by
      cases hblock with
      | paragraph htext =>
          cases isTight with
          | true => exact leads_ofText definitions htext n
          | false => exact (leads_paragraph (leads_ofText definitions htext (n + 1))).onNewLine _
  | .heading level text, hblock => by
      cases hblock with
      | heading _ htext =>
          exact (leads_ofHeading level (leads_ofText definitions htext n)).onNewLine _
  | .rule, _ => (leads_of_isNeutral "<hr />\n".toList (by decide) n).onNewLine _
  | .code language text, _ => (leads_ofCode language text n).onNewLine _
  | .quote blocks, hblock => by
      cases hblock with
      | quote hblocks =>
          have hinner := leads_ofBlocks definitions false true n blocks hblocks
          exact (((leads_of_isNeutral "<blockquote>\n".toList (by decide) n).append hinner).append
            (leads_of_isNeutral "</blockquote>\n".toList (by decide) n)).onNewLine _
  | .list start isTight items, hblock => by
      cases hblock with
      | list _ _ hitems =>
          have hinner := leads_ofItems definitions isTight n items hitems
          exact (((leads_listTags start n).1.append hinner).append
            (leads_listTags start n).2).onNewLine _

theorem leads_ofBlocks (definitions : List Definition) (isTight atLineStart : Bool) (n : Nat) :
    (blocks : List Block) → (∀ block ∈ blocks, block.Plain) →
      Leads n n (ofBlocks definitions isTight atLineStart blocks)
  | [], _ => leads_of_not_mem List.not_mem_nil n
  | block :: rest, hblocks =>
      (leads_ofBlock definitions isTight atLineStart n block
        (hblocks block List.mem_cons_self)).append
        (leads_ofBlocks definitions isTight _ n rest
          fun other hother => hblocks other (List.mem_cons_of_mem block hother))

theorem leads_ofItems (definitions : List Definition) (isTight : Bool) (n : Nat) :
    (items : List (List Block)) → (∀ item ∈ items, ∀ block ∈ item, block.Plain) →
      Leads n n (ofItems definitions isTight items)
  | [], _ => leads_of_not_mem List.not_mem_nil n
  | item :: rest, hitems =>
      (((leads_of_isNeutral "<li>".toList (by decide) n).append
        (leads_ofBlocks definitions isTight false n item (hitems item List.mem_cons_self))).append
        (leads_of_isNeutral "</li>\n".toList (by decide) n)).append
        (leads_ofItems definitions isTight n rest
          fun other hother => hitems other (List.mem_cons_of_mem item hother))

end

theorem leads_toHtml {text : Text} (htext : '<' ∉ text) : Leads 0 0 (toHtml text) :=
  leads_ofBlocks _ false true 0 _ (Content.plain_ofText htext)

/-! ## The ends of a block -/

/-- Whether a block is a paragraph. -/
def IsParagraph : Block → Prop
  | .paragraph _ => True
  | _ => False

/-- HTML between two tags, which either both belong to a paragraph or both do
not. -/
structure IsEnclosed (isParagraph : Prop) (html : Text) : Prop where
  head?_eq : html.head? = some '<'
  getLast?_eq : html.getLast? = some '>'
  opening_iff : ∀ rest, openingParagraph <+: html ++ rest ↔ isParagraph
  closing_iff : ∀ front, closingParagraph <:+ front ++ html ↔ isParagraph

theorem ofBlock_paragraph (definitions : List Definition) (text : Text) :
    ofBlock definitions false true (.paragraph text) =
      openingParagraph ++ ofText definitions text ++ closingParagraph ++ ['\n'] := by
  have hend : "</p>\n".toList = closingParagraph ++ ['\n'] := rfl
  unfold ofBlock
  rw [if_neg (by decide), hend, ← List.append_assoc]
  rfl

theorem isEnclosed_paragraph (html : Text) :
    IsEnclosed True (openingParagraph ++ html ++ closingParagraph) where
  head?_eq := rfl
  getLast?_eq := by
    rw [List.getLast?_append]
    rfl
  opening_iff := by
    intro rest
    rw [iff_true, List.append_assoc, List.append_assoc]
    exact List.prefix_append openingParagraph _
  closing_iff := by
    intro front
    rw [iff_true, ← List.append_assoc]
    exact List.suffix_append _ closingParagraph

/-- Such HTML with the end of its line. -/
def IsLine (isParagraph : Prop) (line : Text) : Prop :=
  ∃ html, IsEnclosed isParagraph html ∧ line = html ++ ['\n']

theorem isLine_of_ends (first last : Text) (hhead : first.head? = some '<')
    (hlast : last.getLast? = some '>')
    (hfirst : ¬ openingParagraph <+: first ∧ ¬ first <+: openingParagraph)
    (hback : ¬ closingParagraph <:+ last ∧ ¬ last <:+ closingParagraph) (html : Text) :
    IsLine False (first ++ html ++ (last ++ ['\n'])) := by
  refine ⟨first ++ html ++ last, ⟨?_, ?_, ?_, ?_⟩, (List.append_assoc _ _ _).symm⟩
  · rw [List.append_assoc, List.head?_append, hhead]
    rfl
  · rw [List.getLast?_append, hlast]
    rfl
  · intro rest
    rw [iff_false, List.append_assoc, List.append_assoc]
    intro hprefix
    exact (List.prefix_or_prefix_of_prefix hprefix (List.prefix_append first _)).elim
      hfirst.1 hfirst.2
  · intro front
    rw [iff_false, ← List.append_assoc]
    intro hsuffix
    exact (List.suffix_or_suffix_of_suffix hsuffix (List.suffix_append _ last)).elim
      hback.1 hback.2

theorem isLine_heading (level : Nat) (html : Text) : IsLine False (ofHeading level html) := by
  obtain ⟨front, digit, hdigits⟩ :=
    (List.eq_nil_or_concat (Text.ofNat level)).resolve_left (Text.ofNat_ne_nil level)
  rw [List.concat_eq_append] at hdigits
  have hp : digit ≠ 'p' := by
    rintro rfl
    exact Text.not_mem_ofNat (c := 'p') (by decide) level (by simp [hdigits])
  have hback : ¬ closingParagraph <:+ [digit, '>'] ∧ ¬ [digit, '>'] <:+ closingParagraph := by
    constructor
    · intro hsuffix
      exact absurd hsuffix.length_le (by simp [closingParagraph, tag])
    · intro hsuffix
      rw [← List.reverse_prefix] at hsuffix
      have hsecond := (List.cons_prefix_cons.mp hsuffix).2
      exact hp (List.cons_prefix_cons.mp hsecond).1
  have hline := isLine_of_ends ['<', 'h'] [digit, '>'] rfl rfl (by decide) hback
    (Text.ofNat level ++ ['>'] ++ html ++ ['<', '/', 'h'] ++ front)
  rw [ofHeading_eq]
  unfold tag
  nth_rewrite 2 [hdigits]
  simpa only [List.append_assoc, List.cons_append, List.nil_append] using hline

theorem isLine_code (language text : Text) : IsLine False (ofCode language text) := by
  unfold ofCode
  split
  · exact isLine_of_ends "<pre><code>".toList "</code></pre>".toList rfl rfl
      (by decide) (by decide) (escapeText text)
  · have hline := isLine_of_ends "<pre><code class=\"language-".toList "</code></pre>".toList
      rfl rfl (by decide) (by decide) (escapeValue language ++ "\">".toList ++ escapeText text)
    have hend : "</code></pre>\n".toList = "</code></pre>".toList ++ ['\n'] := rfl
    rw [hend]
    simpa only [List.append_assoc] using hline

theorem isLine_list (start : Option Nat) (items : Text) :
    IsLine False ((listTags start).1 ++ items ++ (listTags start).2) := by
  unfold listTags
  split
  · exact isLine_of_ends "<ul>\n".toList "</ul>".toList rfl rfl (by decide) (by decide) items
  · exact isLine_of_ends "<ol>\n".toList "</ol>".toList rfl rfl (by decide) (by decide) items
  · next start _ =>
      have hline := isLine_of_ends "<ol start=\"".toList "</ol>".toList rfl rfl
        (by decide) (by decide) (Text.ofNat start ++ "\">\n".toList ++ items)
      have hend : "</ol>\n".toList = "</ol>".toList ++ ['\n'] := rfl
      rw [hend]
      simpa only [List.append_assoc] using hline

/-- A block that begins a line ends one, and shows by its tags whether it is a
paragraph. -/
theorem isLine_ofBlock (definitions : List Definition) {block : Block} (hblock : block.Plain) :
    IsLine (IsParagraph block) (ofBlock definitions false true block) := by
  cases hblock with
  | @paragraph text htext =>
      exact ⟨_, isEnclosed_paragraph (ofText definitions text), ofBlock_paragraph definitions text⟩
  | heading level htext => exact isLine_heading level _
  | rule => exact isLine_of_ends "<hr".toList "/>".toList rfl rfl (by decide) (by decide) [' ']
  | code language text => exact isLine_code language text
  | quote hblocks =>
      exact isLine_of_ends "<blockquote>\n".toList "</blockquote>".toList rfl rfl (by decide)
        (by decide) _
  | list start isTight hitems => exact isLine_list start _

/-- Blocks that are not in a list stand one below the other. -/
theorem ofBlocks_eq_flatMap (definitions : List Definition) {blocks : List Block}
    (hblocks : ∀ block ∈ blocks, block.Plain) :
    ofBlocks definitions false true blocks =
      blocks.flatMap (ofBlock definitions false true) := by
  induction blocks with
  | nil => rfl
  | cons block rest ih =>
      obtain ⟨hblock, hrest⟩ := List.forall_mem_cons.mp hblocks
      obtain ⟨html, -, heq⟩ := isLine_ofBlock definitions hblock
      have hends : endsLine true (ofBlock definitions false true block) = true := by
        rw [heq, endsLine, List.getLast?_append]
        rfl
      rw [ofBlocks, hends, ih hrest, List.flatMap_cons]

end Html

end Markdown

end MessageCatalog
