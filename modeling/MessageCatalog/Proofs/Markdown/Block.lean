import MessageCatalog.Markdown.Block.Reading
import MessageCatalog.Proofs.Markdown.Definition
import MessageCatalog.Proofs.Text.Joining
import Mathlib.Data.List.DropRight

/-!
# Blocks without HTML

Blocks of HTML begin with an angle bracket.  In a document that has none, all
blocks are plain and so is the text of its paragraphs and headings: every line
only adds rests of itself to what was read before.
-/

namespace MessageCatalog

namespace Markdown

/-- Blocks without HTML in them, and without angle brackets in their running
text. -/
inductive Block.Plain : Block → Prop
  | paragraph {text : Text} (htext : '<' ∉ text) : Plain (.paragraph text)
  | heading (level : Nat) {text : Text} (htext : '<' ∉ text) : Plain (.heading level text)
  | rule : Plain .rule
  | code (language text : Text) : Plain (.code language text)
  | quote {blocks : List Block} (hblocks : ∀ block ∈ blocks, Plain block) :
      Plain (.quote blocks)
  | list (start : Option Nat) (isTight : Bool) {items : List (List Block)}
      (hitems : ∀ item ∈ items, ∀ block ∈ item, Plain block) : Plain (.list start isTight items)

/-! ## Places in a line -/

namespace Cursor

theorem suffix_of_passColumn? {cursor next : Cursor} (hpass : cursor.passColumn? = some next) :
    next.rest <:+ cursor.rest := by
  unfold passColumn? at hpass
  split at hpass
  · cases hpass
    exact List.suffix_rfl
  · split at hpass
    · cases hpass
    · next c rest hrest =>
        have htail : rest <:+ cursor.rest := hrest ▸ List.suffix_cons c rest
        split_ifs at hpass <;> cases hpass <;> exact htail

theorem passUpTo_suffix (n : Nat) (cursor : Cursor) :
    (cursor.passUpTo n).2.rest <:+ cursor.rest := by
  induction n generalizing cursor with
  | zero => exact List.suffix_rfl
  | succ n ih =>
      rw [passUpTo]
      split
      · exact List.suffix_rfl
      · next next hnext => exact (ih next).trans (suffix_of_passColumn? hnext)

theorem passChar_suffix (cursor : Cursor) : cursor.passChar.rest <:+ cursor.rest :=
  List.tail_suffix cursor.rest

end Cursor

namespace Frame

theorem suffix_of_claim? {frame : Frame} {cursor behind : Cursor}
    (hclaim : frame.claim? cursor = some behind) : behind.rest <:+ cursor.rest := by
  cases frame with
  | quote blocks =>
      unfold claim? at hclaim
      dsimp only at hclaim
      split_ifs at hclaim
      cases hclaim
      exact (Cursor.passUpTo_suffix 1 _).trans
        ((Cursor.passChar_suffix _).trans (Cursor.passUpTo_suffix 3 cursor))
  | list marker isTight items => cases hclaim; exact List.suffix_rfl
  | item indent blocks =>
      unfold claim? at hclaim
      dsimp only at hclaim
      split_ifs at hclaim
      cases hclaim
      exact Cursor.passUpTo_suffix indent cursor

theorem claimAll_suffix (frames : List Frame) (cursor : Cursor) :
    (claimAll frames cursor).2.rest <:+ cursor.rest := by
  induction frames generalizing cursor with
  | nil => exact List.suffix_rfl
  | cons frame frames ih =>
      rw [claimAll]
      split
      · exact List.suffix_rfl
      · next behind hbehind => exact (ih behind).trans (suffix_of_claim? hbehind)

end Frame

theorem BlockStart.suffix_of_item? {cursor behind : Cursor} {marker : ListMarker} {length : Nat}
    (hitem : item? cursor = some (marker, length, behind)) : behind.rest <:+ cursor.rest := by
  unfold item? at hitem
  split at hitem
  · cases hitem
  · next found count hmarker =>
      have hdrop := List.drop_suffix count cursor.rest
      dsimp only at hitem
      split at hitem
      · next next hnext =>
          cases hitem
          exact (Cursor.suffix_of_passColumn? hnext).trans hdrop
      · split_ifs at hitem
        cases hitem
        exact hdrop

theorem BlockStart.infix_of_heading? {text title : Text} {level : Nat}
    (hheading : heading? text = some (level, title)) : title <:+: text := by
  have hdropTrailing : ∀ (drop : Char → Bool) (text : Text),
      Text.dropTrailing drop text <+: text := fun drop text => List.rdropWhile_prefix drop text
  have hdropClosing : ∀ text, dropClosing text <+: text := by
    intro text
    unfold dropClosing
    dsimp only
    split_ifs
    · exact List.nil_prefix
    · exact (hdropTrailing _ _).trans ((hdropTrailing _ _).trans (hdropTrailing _ _))
    · exact hdropTrailing _ _
  unfold heading? at hheading
  dsimp only at hheading
  split_ifs at hheading
  cases hheading
  exact (hdropClosing _).isInfix.trans
    ((List.dropWhile_suffix _).trans (List.drop_suffix _ text)).isInfix

/-! ## Readers without HTML -/

def Frame.Plain : Frame → Prop
  | .quote blocks => ∀ block ∈ blocks, block.Plain
  | .list _ _ items => ∀ item ∈ items, ∀ block ∈ item, block.Plain
  | .item _ blocks => ∀ block ∈ blocks, block.Plain

def Leaf.Plain : Leaf → Prop
  | .paragraph lines => ∀ line ∈ lines, '<' ∉ line
  | .html _ _ => False
  | _ => True

theorem Frame.Plain.add {frame : Frame} (hframe : frame.Plain) {block : Block}
    (hblock : block.Plain) : (frame.add block).Plain := by
  cases frame with
  | quote blocks => exact List.forall_mem_cons.mpr ⟨hblock, hframe⟩
  | list marker isTight items =>
      exact List.forall_mem_cons.mpr ⟨List.forall_mem_singleton.mpr hblock, hframe⟩
  | item indent blocks => exact List.forall_mem_cons.mpr ⟨hblock, hframe⟩

theorem Frame.Plain.loosen {frame : Frame} (hframe : frame.Plain) : frame.loosen.Plain := by
  cases frame <;> exact hframe

theorem Leaf.not_mem_paragraphContent {lines : List Text} (hlines : ∀ line ∈ lines, '<' ∉ line) :
    '<' ∉ (paragraphContent lines).2 := by
  have hjoined : '<' ∉ Text.join ['\n'] lines.reverse := by
    apply Text.not_mem_join (by decide)
    intro line hline
    exact hlines line (List.mem_reverse.mp hline)
  intro hmem
  exact hjoined ((List.rdropWhile_prefix _ _).subset
    ((Definition.ofParagraph_suffix _).subset hmem))

theorem Leaf.Plain.content {leaf : Leaf} (hleaf : leaf.Plain) :
    ∀ block ∈ leaf.content.2, block.Plain := by
  intro block hblock
  cases leaf with
  | paragraph lines =>
      unfold Leaf.content at hblock
      dsimp only at hblock
      split_ifs at hblock
      · cases hblock
      · cases hblock
        exact .paragraph (not_mem_paragraphContent hleaf)
  | fenced fence indent lines => cases hblock; exact .code _ _
  | indented lines => cases hblock; exact .code _ _
  | html blockEnd lines => cases hleaf

namespace BlockReader

structure Plain (reader : BlockReader) : Prop where
  blocks : ∀ block ∈ reader.blocks, block.Plain
  frames : ∀ frame ∈ reader.frames, frame.Plain
  leaf : ∀ leaf ∈ reader.leaf, leaf.Plain

theorem plain_start : start.Plain := ⟨by simp [start], by simp [start], by simp [start]⟩

variable {reader : BlockReader}

theorem Plain.frames_cons (hreader : reader.Plain) {frame : Frame} {outer : List Frame}
    (hframes : reader.frames = frame :: outer) : frame.Plain ∧ ∀ other ∈ outer, other.Plain :=
  List.forall_mem_cons.mp (hframes ▸ hreader.frames)

theorem Plain.withLeaf (hreader : reader.Plain) {leaf : Leaf} (hleaf : leaf.Plain) :
    { reader with leaf := some leaf }.Plain :=
  ⟨hreader.blocks, hreader.frames, by simpa using hleaf⟩

theorem Plain.add (hreader : reader.Plain) {block : Block} (hblock : block.Plain) :
    (reader.add block).Plain := by
  unfold BlockReader.add
  split
  · exact ⟨List.forall_mem_cons.mpr ⟨hblock, hreader.blocks⟩, hreader.frames, hreader.leaf⟩
  · next frame outer hframes =>
      obtain ⟨hframe, houter⟩ := hreader.frames_cons hframes
      exact ⟨hreader.blocks, List.forall_mem_cons.mpr ⟨hframe.add hblock, houter⟩, hreader.leaf⟩

theorem Plain.closeLeaf (hreader : reader.Plain) : reader.closeLeaf.Plain := by
  unfold BlockReader.closeLeaf
  split
  · exact hreader
  · next leaf hleaf =>
      have hclosed : ∀ definitions,
          { reader with leaf := none, definitions := definitions }.Plain := fun definitions =>
        ⟨hreader.blocks, hreader.frames, by simp⟩
      dsimp only
      split
      · exact hclosed _
      · next block hblock => exact (hclosed _).add ((hreader.leaf leaf hleaf).content block hblock)

theorem Plain.closeFrame (hreader : reader.Plain) : reader.closeFrame.Plain := by
  have houter : ∀ {frame outer}, reader.frames = frame :: outer →
      frame.Plain ∧ { reader with frames := outer }.Plain := by
    intro frame outer hframes
    obtain ⟨hframe, houter⟩ := hreader.frames_cons hframes
    exact ⟨hframe, hreader.blocks, houter, hreader.leaf⟩
  unfold BlockReader.closeFrame
  split
  · exact hreader
  · next blocks outer hframes =>
      obtain ⟨hblocks, hrest⟩ := houter hframes
      exact hrest.add (.quote fun block hblock => hblocks block (List.mem_reverse.mp hblock))
  · next marker isTight items outer hframes =>
      obtain ⟨hitems, hrest⟩ := houter hframes
      exact hrest.add (.list _ _ fun item hitem => hitems item (List.mem_reverse.mp hitem))
  · next indent blocks marker isTight items outer hframes =>
      obtain ⟨hblocks, hrest⟩ := houter hframes
      obtain ⟨hlist, hbeyond⟩ := List.forall_mem_cons.mp hrest.frames
      have hitem : ∀ block ∈ blocks.reverse, block.Plain := fun block hblock =>
        hblocks block (List.mem_reverse.mp hblock)
      have hlonger : (Frame.list marker isTight (blocks.reverse :: items)).Plain :=
        List.forall_mem_cons.mpr ⟨hitem, hlist⟩
      exact ⟨hreader.blocks, List.forall_mem_cons.mpr ⟨hlonger, hbeyond⟩, hreader.leaf⟩
  · next indent blocks outer _ hframes => exact (houter hframes).2

theorem Plain.closeFrames (hreader : reader.Plain) (n : Nat) : (closeFrames n reader).Plain := by
  induction n generalizing reader with
  | zero => exact hreader
  | succ n ih => exact ih hreader.closeFrame

theorem Plain.openFrame (hreader : reader.Plain) {frame : Frame} (hframe : frame.Plain) :
    (reader.openFrame frame).Plain :=
  ⟨hreader.blocks, List.forall_mem_cons.mpr ⟨hframe, hreader.frames⟩, hreader.leaf⟩

theorem Plain.finishList (hreader : reader.Plain) : reader.finishList.Plain := by
  unfold BlockReader.finishList
  extract_lets finished
  have hfinished : finished.Plain := by
    unfold finished
    split
    · exact hreader.closeFrame
    · exact hreader
  clear_value finished
  split
  · split
    · next inner parent outer hframes =>
        obtain ⟨hinner, hrest⟩ := hfinished.frames_cons hframes
        obtain ⟨hparent, houter⟩ := List.forall_mem_cons.mp hrest
        exact ⟨hfinished.blocks, List.forall_mem_cons.mpr
          ⟨hinner, List.forall_mem_cons.mpr ⟨hparent.loosen, houter⟩⟩, hfinished.leaf⟩
    · exact ⟨hfinished.blocks, hfinished.frames, hfinished.leaf⟩
  · exact hfinished

theorem Plain.newList (hreader : reader.Plain) (marker : ListMarker) :
    (reader.newList marker).Plain := by
  have hlist : (Frame.list marker true []).Plain := List.forall_mem_nil _
  have hopened := hreader.finishList.openFrame hlist
  exact ⟨hopened.blocks, hopened.frames, hopened.leaf⟩

theorem Plain.continueList (hreader : reader.Plain) (marker : ListMarker) :
    (reader.continueList marker).Plain := by
  unfold BlockReader.continueList
  split
  · next first isTight items outer hframes =>
      obtain ⟨hlist, houter⟩ := hreader.frames_cons hframes
      split
      · exact ⟨hreader.blocks, List.forall_mem_cons.mpr ⟨hlist, houter⟩, hreader.leaf⟩
      · exact hreader.newList marker
  · exact hreader.newList marker

theorem Plain.openItem (hreader : reader.Plain) (marker : ListMarker) (indent : Nat)
    (behind : Cursor) : (reader.openItem marker indent behind).1.Plain := by
  have hitem : ∀ indent, (Frame.item indent []).Plain := fun indent => List.forall_mem_nil _
  unfold BlockReader.openItem
  dsimp only
  split <;> exact (hreader.continueList marker).openFrame (hitem _)

theorem openItem_suffix (reader : BlockReader) (marker : ListMarker) (indent : Nat)
    (behind : Cursor) : (reader.openItem marker indent behind).2.rest <:+ behind.rest := by
  unfold BlockReader.openItem
  dsimp only
  split
  · exact List.suffix_rfl
  · exact Cursor.passUpTo_suffix 4 behind

/-- Frames that begin on a line are plain, and leave a rest of the line. -/
theorem Plain.openFrames (hreader : reader.Plain) (fuel : Nat) (cursor : Cursor) :
    (openFrames fuel reader cursor).1.Plain ∧
      (openFrames fuel reader cursor).2.1.rest <:+ cursor.rest := by
  induction fuel generalizing reader cursor with
  | zero => exact ⟨hreader, List.suffix_rfl⟩
  | succ fuel ih =>
      have houter := Cursor.passUpTo_suffix 4 cursor
      rw [BlockReader.openFrames]
      dsimp only
      split
      · exact ⟨hreader, List.suffix_rfl⟩
      · split
        · next marker length behind hitem =>
            have hopened := hreader.openItem marker ((cursor.passUpTo 4).1 + length + 1) behind
            have hbehind := (openItem_suffix reader marker ((cursor.passUpTo 4).1 + length + 1)
              behind).trans ((BlockStart.suffix_of_item? hitem).trans houter)
            split
            · exact ⟨hopened, hbehind⟩
            · exact ⟨(ih hopened _).1, (ih hopened _).2.trans hbehind⟩
        · split
          · have hquote : (Frame.quote []).Plain := List.forall_mem_nil _
            have hopened := hreader.finishList.openFrame hquote
            have hbehind := (Cursor.passUpTo_suffix 1 (cursor.passUpTo 4).2.passChar).trans
              ((Cursor.passChar_suffix (cursor.passUpTo 4).2).trans houter)
            exact ⟨(ih hopened _).1, (ih hopened _).2.trans hbehind⟩
          · exact ⟨hreader, List.suffix_rfl⟩

theorem Plain.blankLine (hreader : reader.Plain) : reader.blankLine.Plain := by
  unfold BlockReader.blankLine
  split
  · exact ⟨hreader.blocks, hreader.frames, hreader.leaf⟩
  · have hclosed : (if reader.inEmptyItem then reader.closeFrame else reader).Plain := by
      split
      · exact hreader.closeFrame
      · exact hreader
    exact ⟨hclosed.blocks, hclosed.frames, hclosed.leaf⟩
  · exact ⟨hreader.blocks, hreader.frames, hreader.leaf⟩

theorem html?_eq_none {text : Text} (htext : '<' ∉ text) : BlockStart.html? text = none := by
  have hhead : text.head? ≠ some '<' := fun hhead => htext (List.mem_of_head? hhead)
  rw [BlockStart.html?, if_neg hhead]

theorem Plain.openLeaf (hreader : reader.Plain) {cursor : Cursor} (hcursor : '<' ∉ cursor.rest)
    (ending : Text) : (reader.openLeaf cursor ending).Plain := by
  have hready : { reader.finishList with inEmptyItem := false }.Plain :=
    ⟨hreader.finishList.blocks, hreader.finishList.frames, hreader.finishList.leaf⟩
  have htext : '<' ∉ (cursor.passUpTo 4).2.rest := fun hmem =>
    hcursor ((Cursor.passUpTo_suffix 4 cursor).subset hmem)
  unfold BlockReader.openLeaf
  dsimp only
  rw [html?_eq_none htext]
  dsimp only
  split
  · exact hready.withLeaf trivial
  · split
    · exact hready.add .rule
    · split
      · next level title hheading =>
          exact hready.add (.heading level fun hmem =>
            htext ((BlockStart.infix_of_heading? hheading).subset hmem))
      · split
        · exact hready.withLeaf trivial
        · exact hready.withLeaf (List.forall_mem_singleton.mpr htext)

theorem Plain.newLine (hreader : reader.Plain) (depth : Nat) {cursor : Cursor}
    (hcursor : '<' ∉ cursor.rest) (ending : Text) :
    (reader.newLine depth cursor ending).Plain := by
  have hkept := hreader.closeLeaf.closeFrames (reader.closeLeaf.frames.length - depth)
  have hopened := hkept.openFrames (cursor.rest.length + 1) cursor
  unfold BlockReader.newLine
  dsimp only
  split
  · next opened behind heq =>
      rw [heq] at hopened
      exact ⟨hopened.1.blocks, hopened.1.frames, hopened.1.leaf⟩
  · next opened behind heq =>
      rw [heq] at hopened
      split
      · exact hopened.1.blankLine
      · exact hopened.1.openLeaf (fun hmem => hcursor (hopened.2.subset hmem)) ending

theorem plain_of_paragraphToHeading? (hreader : reader.Plain) {lines : List Text}
    (hlines : ∀ line ∈ lines, '<' ∉ line) {level : Nat} {next : BlockReader}
    (hheading : reader.paragraphToHeading? lines level = some next) : next.Plain := by
  unfold paragraphToHeading? at hheading
  dsimp only at hheading
  split_ifs at hheading
  cases hheading
  have hclosed : ∀ definitions,
      { reader with leaf := none, definitions := definitions }.Plain := fun definitions =>
    ⟨hreader.blocks, hreader.frames, by simp⟩
  exact (hclosed _).add (.heading level (Leaf.not_mem_paragraphContent hlines))

theorem Plain.paragraphLine (hreader : reader.Plain) {lines : List Text}
    (hlines : ∀ line ∈ lines, '<' ∉ line) (depth : Nat) {cursor : Cursor}
    (hcursor : '<' ∉ cursor.rest) (ending : Text) :
    (reader.paragraphLine lines depth cursor ending).Plain := by
  have htext : '<' ∉ cursor.text := fun hmem =>
    hcursor ((List.dropWhile_suffix _).subset hmem)
  have hcontinued : (Leaf.paragraph (cursor.text :: lines)).Plain :=
    List.forall_mem_cons.mpr ⟨htext, hlines⟩
  unfold BlockReader.paragraphLine
  dsimp only
  split
  · exact hreader.newLine depth hcursor ending
  · split
    · exact hreader.withLeaf hcontinued
    · split
      · next found hheading =>
          split_ifs at hheading
          obtain ⟨level, -, hfound⟩ := Option.bind_eq_some_iff.mp hheading
          exact plain_of_paragraphToHeading? hreader hlines hfound
      · split
        · exact hreader.newLine depth hcursor ending
        · exact hreader.withLeaf hcontinued

theorem Plain.fencedLine (hreader : reader.Plain) (fence : Fence) (indent : Nat)
    (lines : List Text) (cursor : Cursor) (ending : Text) :
    (reader.fencedLine fence indent lines cursor ending).Plain := by
  unfold BlockReader.fencedLine
  dsimp only
  split
  · exact hreader.closeLeaf
  · exact hreader.withLeaf trivial

theorem Plain.step (hreader : reader.Plain) {line : Line} (hline : '<' ∉ line.content) :
    (reader.step line).Plain := by
  have hcursor : '<' ∉ (Frame.claimAll reader.frames.reverse (.ofContent line.content)).2.rest :=
    fun hmem => hline ((Frame.claimAll_suffix _ _).subset hmem)
  have hnewLine := hreader.newLine
    (Frame.claimAll reader.frames.reverse (.ofContent line.content)).1 hcursor line.ending
  unfold BlockReader.step
  dsimp only
  split
  · exact hnewLine
  · next lines hleaf => exact hreader.paragraphLine (hreader.leaf _ hleaf) _ hcursor _
  · split
    · exact hreader.fencedLine _ _ _ _ _
    · exact hnewLine
  · split
    · refine ⟨hreader.blocks, hreader.frames, ?_⟩
      intro leaf hleaf
      cases hleaf
      trivial
    · exact hnewLine
  · next blockEnd lines hleaf => exact (hreader.leaf _ hleaf).elim

theorem Plain.steps (hreader : reader.Plain) {lines : List Line}
    (hlines : ∀ line ∈ lines, '<' ∉ line.content) :
    (lines.foldl BlockReader.step reader).Plain := by
  induction lines generalizing reader with
  | nil => exact hreader
  | cons line lines ih =>
      obtain ⟨hline, hrest⟩ := List.forall_mem_cons.mp hlines
      exact ih (hreader.step hline) hrest

theorem Plain.finish (hreader : reader.Plain) : ∀ block ∈ reader.finish.blocks, block.Plain := by
  intro block hblock
  exact (hreader.closeLeaf.closeFrames reader.closeLeaf.frames.length).blocks block
    (List.mem_reverse.mp hblock)

end BlockReader

theorem Line.not_mem_content {c : Char} {text : Text} (htext : c ∉ text) :
    ∀ line ∈ Line.ofText text, c ∉ line.content := by
  fun_induction Line.ofText text with
  | case1 => exact List.forall_mem_nil _
  | case2 rest ih =>
      exact List.forall_mem_cons.mpr ⟨List.not_mem_nil, ih (List.not_mem_of_not_mem_cons htext)⟩
  | case3 rest lines hlines _ ih =>
      have hrest := ih (List.not_mem_of_not_mem_cons htext)
      rwa [hlines] at hrest
  | case4 rest _ _ ih =>
      exact List.forall_mem_cons.mpr ⟨List.not_mem_nil, ih (List.not_mem_of_not_mem_cons htext)⟩
  | case5 d rest _ _ ih =>
      have hrest := ih (List.not_mem_of_not_mem_cons htext)
      have hd : c ≠ d := List.ne_of_not_mem_cons htext
      cases hlines : Line.ofText rest with
      | nil => exact List.forall_mem_singleton.mpr (by simpa using hd)
      | cons line lines =>
          rw [hlines] at hrest
          obtain ⟨hline, hmore⟩ := List.forall_mem_cons.mp hrest
          exact List.forall_mem_cons.mpr ⟨List.not_mem_cons_of_ne_of_not_mem hd hline, hmore⟩

/-- A document without an angle bracket holds no HTML. -/
theorem Content.plain_ofText {text : Text} (htext : '<' ∉ text) :
    ∀ block ∈ (ofText text).blocks, block.Plain :=
  (BlockReader.plain_start.steps (Line.not_mem_content htext)).finish

end Markdown

end MessageCatalog
